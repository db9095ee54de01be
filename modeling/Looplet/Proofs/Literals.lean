import Looplet.Code.Printer
import Looplet.Proofs.Lowering.Operands
import Looplet.Proofs.Token.Numeral
import Looplet.Proofs.Tree.Anchors
import Looplet.Proofs.Tree.Valued

/-!
# Literals from the text to the module

A literal is the same integer in all stages (`literals_kept`). Its digits are read when the text is
split into tokens, so that no text is refused for a number later; the tree and the bound program
have it at its place; and the constant that it is lowered to goes through the bits of an unsigned
word and is that integer again, with its sign.
-/

namespace Looplet

open Code (Operand)

/-! ## Numbers of a text -/

/-- Only the expectation of a number is worded so. -/
theorem Parser.Expected.eq_of_text {x : Parser.Expected} (h : x.text = "integer literal") :
    x = .kind .number := by
  cases x with
  | kind k =>
    cases k
    case number => rfl
    all_goals exact absurd h (by decide)
  | semicolonOrBody => exact absurd h (by decide)
  | loopAfterLabel => exact absurd h (by decide)
  | expression => exact absurd h (by decide)

/-- No text is refused for want of a number, since all its numbers have values. -/
theorem expectedText_ne_of_parse {src : String} {e : Parser.Error}
    (h : parse src = .error (.parse e)) : e.expectedText ≠ "integer literal" := by
  intro htext
  unfold parse at h
  cases hts : tokenize src with
  | error d => simp [hts] at h
  | ok ts =>
    cases hp : Program.ofTokens ts with
    | ok p => simp [hts, hp] at h
    | error d =>
      simp only [hts, hp, Except.error.injEq, CompileError.parse.injEq] at h
      subst h
      cases d with
      | unterminated => exact absurd htext (by decide)
      | unexpected x t =>
        obtain rfl := Parser.Expected.eq_of_text htext
        obtain ⟨ht, hk, hnone⟩ := Parser.exists_of_unexpected_number hp
        obtain ⟨v, hv, -⟩ := exists_value_of_tokenize hts t ht hk
        rw [hnone] at hv
        cases hv

/-- The tree of a text has the literals that the numbers of the text stand for. -/
theorem literals_of_parse {src : String} {p : Program} (h : parse src = .ok p) :
    ∃ ts, tokenize src = .ok ts ∧ p.literals.map some = Grammar.numbers ts := by
  obtain ⟨ts, e, hts, he, hp⟩ := exists_tokens_of_parse h
  refine ⟨ts ++ [e], hts, ?_⟩
  rw [hp.literals, Grammar.numbers_append_of_kind he (by decide)]

/-! ## Bits -/

/-- The bits of a word are its value modulo the number of words. -/
theorem toNat_toUInt64 (w : Int64) : (w.toUInt64.toNat : Int) = w.toInt % 2 ^ 64 := by
  have hmod : w.toInt = Int.bmod w.toUInt64.toNat (2 ^ 64) := BitVec.toInt_eq_toNat_bmod w.toBitVec
  have hlt := w.toUInt64.toNat_lt
  rw [hmod, show (2 : Int) ^ 64 = ((2 ^ 64 : Nat) : Int) from rfl, Int.bmod_emod,
    Int.emod_eq_of_lt (by omega) (by omega)]

/-- The constant that bits are has a sign if the highest bit is set. -/
theorem exists_ofBits (bits : UInt64) : ∃ w : Int64, Operand.ofBits bits = .const w ∧
    w.toInt = if bits.toNat < 2 ^ 63 then (bits.toNat : Int) else bits.toNat - 2 ^ 64 := by
  refine ⟨bits.toInt64, rfl, ?_⟩
  have hcond : bits.toInt64.toInt =
      if 2 * bits.toNat < 2 ^ 64 then (bits.toNat : Int) else bits.toNat - (2 ^ 64 : Nat) :=
    BitVec.toInt_eq_toNat_cond bits.toBitVec
  rw [hcond]
  split <;> split <;> omega

/-! ## All stages -/

/-- A number has a value exactly if its text is a numeral that writes a signed word of 64 bits,
zeros in front or not, and every number of a text has one, that of its digits. A tree has the values
of its tokens as its literals, the bound program has those of the tree, and the code of a body has
them as constants in the operands that stand for its expressions. The constant of a word goes
through its bits, which are its value modulo `2 ^ 64`, and writes the value again, negative or
not. -/
theorem literals_kept :
    (∀ (t : Token) (n : Int), t.kind = .number →
      ((∃ v, t.value? = some v ∧ v.toInt = n) ↔
        Numeral t.text.toList n ∧ -2 ^ 63 ≤ n ∧ n ≤ 2 ^ 63 - 1)) ∧
    (∀ (k : Nat) (ds : List Char),
      Piece.decimal (List.replicate k '0' ++ ds) = Piece.decimal ds) ∧
    (∀ src ts, tokenize src = .ok ts → ∀ t ∈ ts, t.kind = .number →
      ∃ v, t.value? = some v ∧ 0 ≤ v.toInt ∧ v.toInt ≤ 2 ^ 63 - 1 ∧
        (∀ c ∈ t.text.toList, c.isDigit = true) ∧ v.toInt = Piece.decimal t.text.toList) ∧
    (∀ src e, parse src = .error (.parse e) → e.expectedText ≠ "integer literal") ∧
    (∀ src p, parse src = .ok p →
      ∃ ts, tokenize src = .ok ts ∧ p.literals.map some = Grammar.numbers ts) ∧
    (∀ ts p, Program.ofTokens ts = .ok p →
      p.literals.map some = Grammar.numbers (ts.takeWhile fun t => t.kind ≠ .ending)) ∧
    (∀ p b, resolve p = .ok b → b.literals = p.literals) ∧
    (∀ body, (Bound.Stmt.usesOfAll body).flatMap (fun u => u.expr.literals) =
      Bound.Stmt.literalsOfAll body) ∧
    (∀ b m, lower b = .ok m →
      ∃ builtins, Lowering.builtinsOf b.declarations = .ok builtins ∧
        ∀ f ∈ b.functions, ∃ g ∈ m.functions, g.symbol = Code.functionSymbol f.name ∧
          Lowering.HasBody (b.functions.map Bound.Function.name) builtins
            (Lowering.instrsOf g.blocks) f) ∧
    (∀ bits : UInt64, ∃ w : Int64, Operand.ofBits bits = .const w ∧
      w.toInt = if bits.toNat < 2 ^ 63 then (bits.toNat : Int) else bits.toNat - 2 ^ 64) ∧
    ∀ v : Int64, (v.toUInt64.toNat : Int) = v.toInt % 2 ^ 64 ∧
      Operand.ofBits v.toUInt64 = .const v ∧
      (∀ ctx next, Lowering.expr ctx next (.int v) = .ok ⟨[], .const v, next⟩) ∧
      Numeral (Operand.const v).render.toList v.toInt := by
  refine ⟨fun t n ht => Token.value?_iff ht, decimal_zeros_append,
    fun _ _ => exists_value_of_tokenize, fun _ _ => expectedText_ne_of_parse,
    fun _ _ => literals_of_parse, fun _ _ => literals_of_ofTokens, fun _ _ => literals_of_resolve,
    Bound.Stmt.literals_usesOfAll, fun _ _ => Lowering.hasBody_of_lower, exists_ofBits,
    fun v => ⟨toNat_toUInt64 v, Operand.ofBits_toUInt64 v, fun ctx next => ?_, ?_⟩⟩
  · rw [Lowering.expr, Operand.ofBits_toUInt64]
  · rw [Operand.render]
    exact numeral_ofWord v

/-- A text with the greatest literal, after two zeros. -/
def padded : String := "func main() \x7b x <- 009223372036854775807 + 7; \x7d"

/-- A program with negative literals, the least one among them. -/
def negative : Bound.Program :=
  ⟨[⟨"main", 0, ["x"], 0, [.store 0 (.binary .add (.int Int64.minValue) (.int (-1)))]⟩], []⟩

theorem padded_negative_kept :
    (∃ v, (⟨.number, "-009223372036854775808", .start⟩ : Token).value? = some v ∧
      v.toInt = -2 ^ 63) ∧
    (∃ ts p b, tokenize padded = .ok ts ∧ parse padded = .ok p ∧ resolve p = .ok b ∧
      Grammar.numbers ts = [some Int64.maxValue, some 7] ∧ b.literals = [Int64.maxValue, 7]) ∧
    ∃ m, lower negative = .ok m ∧ ∃ g ∈ m.functions, g.symbol = "lambda_fn_main" ∧
      ∃ n, .define n "add" (.add (.const Int64.minValue) (.const (-1))) ∈
        Lowering.instrsOf g.blocks := by
  obtain ⟨hvalue, hzeros, -, -, hparse, -, hresolve, -, hlower, -⟩ := literals_kept
  refine ⟨?_, ?_, ?_⟩
  · refine (hvalue _ _ rfl).mpr ⟨?_, by decide⟩
    exact @Numeral.minus "009223372036854775808".toList (by decide) (by simp)
  · obtain ⟨p, hp⟩ : ∃ p, parse padded = .ok p := exists_ok (by decide +kernel)
    have hfacts : (parse padded).map (fun p => ((resolve p).isOk, p.literals))
        = .ok (true, [Int64.maxValue, 7]) := by
      decide +kernel
    simp only [hp, Except.map, Except.ok.injEq, Prod.mk.injEq] at hfacts
    obtain ⟨b, hb⟩ := exists_ok hfacts.1
    obtain ⟨ts, hts, hnumbers⟩ := hparse padded p hp
    refine ⟨ts, p, b, hts, hp, hb, ?_, ?_⟩
    · rw [← hnumbers, hfacts.2]
      rfl
    · rw [hresolve p b hb, hfacts.2]
  · obtain ⟨m, hm⟩ : ∃ m, lower negative = .ok m := exists_ok (by decide +kernel)
    obtain ⟨builtins, -, hfunctions⟩ := hlower negative m hm
    obtain ⟨g, hg, hsymbol, base, huses⟩ := hfunctions _ (List.mem_singleton_self _)
    refine ⟨m, hm, g, hg, hsymbol, ?_⟩
    cases huses _ (List.mem_singleton_self _) with
    | stored he _ _ =>
      cases he with
      | add hl hr hi =>
        cases hl
        cases hr
        exact ⟨_, hi⟩

end Looplet
