import Looplet.Proofs.Parentheses
import Looplet.Proofs.Tree.Anchors
import Looplet.Proofs.Tree.Expressible

/-!
# Which trees texts are read as

Every expressible tree is written down as tokens, with parentheses around each operator so that no
grouping is left to the grammar (`Expr.tokens`, `Stmt.tokens`, `Item.tokens`). The grammar reads
these tokens as the tree again, and they are genuine, so they are the tokens of a text. Together
with `IsProgram.expressible`, the trees of texts are the expressible ones, up to positions
(`exists_parse_iff`).
-/

namespace Looplet

/-- The token of a kind that has one spelling. -/
def Token.sign (k : Token.Kind) : Token :=
  ⟨k, k.spelling?.getD "", .start⟩

/-- The token of a name. -/
def Token.named (x : String) : Token :=
  ⟨.name, x, .start⟩

/-- The token of a number that is not negative. -/
def Token.numeral (v : Int64) : Token :=
  ⟨.number, Nat.repr v.toInt.toNat, .start⟩

namespace Token

theorem genuine_sign {k : Kind} (h : k.spelling?.isSome = true) : (sign k).Genuine := by
  obtain ⟨s, hs⟩ := Option.isSome_iff_exists.mp h
  rw [sign, hs]
  exact .of_spelling hs _

theorem genuine_named {x : String} (h : IsName x) : (named x).Genuine :=
  .of_name h _

theorem genuine_numeral (v : Int64) : (numeral v).Genuine := by
  have hlt := v.toInt_lt
  exact .of_nat (by omega) _

theorem value?_numeral {v : Int64} (h : 0 ≤ v.toInt) : (numeral v).value? = some v := by
  have hlt := v.toInt_lt
  have hvalue : (numeral v).value? = Text.word? (Nat.repr v.toInt.toNat).toList := if_pos rfl
  rw [hvalue, word?_eq_some repr_ne_nil isDigit_of_mem_repr, decimal_repr]
  simp only [Int.ofNat_eq_natCast]
  omega

end Token

/-- The kind of the sign of an operator. -/
def BinaryOp.kind : BinaryOp → Token.Kind
  | add => .plus
  | equal => .equal
  | notEqual => .notEqual

/-- The kind of the word of a jump. -/
def Jump.kind : Jump → Token.Kind
  | leave => .breakWord
  | again => .continueWord

namespace Tree

open Token (sign named numeral genuine_sign genuine_named genuine_numeral)

/-! ## Tokens of trees -/

mutual

/-- The tokens of an expression, an operator and its operands in parentheses. -/
def Expr.tokens : Expr → List Token
  | int v => [numeral v]
  | var x _ => [named x]
  | binary op l r =>
    sign .openParen :: ((l.tokens ++ sign op.kind :: r.tokens) ++ [sign .closeParen])
  | call f args _ => named f :: sign .openParen :: (Expr.tokensOfAll args ++ [sign .closeParen])

/-- The tokens of arguments, with commas between them. -/
def Expr.tokensOfAll : List Expr → List Token
  | [] => []
  | [e] => e.tokens
  | e :: e' :: es => e.tokens ++ sign .comma :: Expr.tokensOfAll (e' :: es)

end

/-- The tokens of what an item or a statement has in braces. -/
def inBraces (ts : List Token) : List Token :=
  sign .openBrace :: (ts ++ [sign .closeBrace])

mutual

/-- The tokens of a statement. -/
def Stmt.tokens : Stmt → List Token
  | assign x e _ => named x :: sign .arrow :: (e.tokens ++ [sign .semicolon])
  | ifThen c body => sign .ifWord :: (c.tokens ++ inBraces (Stmt.tokensOfAll body))
  | ifElse c t e =>
    sign .ifWord :: (c.tokens ++ (inBraces (Stmt.tokensOfAll t) ++
      sign .elseWord :: inBraces (Stmt.tokensOfAll e)))
  | loop none c body _ => sign .whileWord :: (c.tokens ++ inBraces (Stmt.tokensOfAll body))
  | loop (some x) c body _ =>
    named x :: sign .colon :: sign .whileWord :: (c.tokens ++ inBraces (Stmt.tokensOfAll body))
  | jump j none _ => [sign j.kind, sign .semicolon]
  | jump j (some x) _ => [sign j.kind, named x, sign .semicolon]
  | expr e => e.tokens ++ [sign .semicolon]

/-- The tokens of statements. -/
def Stmt.tokensOfAll : List Stmt → List Token
  | [] => []
  | s :: ss => s.tokens ++ Stmt.tokensOfAll ss

end

/-- The tokens of parameters, with commas between them. -/
def tokensOfParams : List String → List Token
  | [] => []
  | [x] => [named x]
  | x :: y :: xs => named x :: sign .comma :: tokensOfParams (y :: xs)

/-- The tokens of an item. -/
def Item.tokens (i : Item) : List Token :=
  sign .funcWord :: named i.name :: sign .openParen :: (tokensOfParams i.params ++
    sign .closeParen :: i.body?.elim [sign .semicolon] fun b => inBraces (Stmt.tokensOfAll b))

/-! ## They are genuine -/

mutual

theorem Expr.genuine_tokens : (e : Expr) → e.Expressible → ∀ t ∈ e.tokens, t.Genuine
  | int v, _ => by
    rw [tokens, List.forall_mem_singleton]
    exact genuine_numeral v
  | var x _, h => by
    rw [tokens, List.forall_mem_singleton]
    exact genuine_named h
  | binary op l r, h => by
    have hop : (sign op.kind).Genuine := genuine_sign (by cases op <;> rfl)
    rw [tokens, List.forall_mem_cons, List.forall_mem_append, List.forall_mem_append,
      List.forall_mem_cons, List.forall_mem_singleton]
    exact ⟨genuine_sign rfl, ⟨l.genuine_tokens h.1, hop, r.genuine_tokens h.2⟩, genuine_sign rfl⟩
  | call f args _, h => by
    rw [tokens, List.forall_mem_cons, List.forall_mem_cons, List.forall_mem_append,
      List.forall_mem_singleton]
    exact ⟨genuine_named h.1, genuine_sign rfl, Expr.genuine_tokensOfAll args h.2,
      genuine_sign rfl⟩

theorem Expr.genuine_tokensOfAll : (es : List Expr) → Expr.AllExpressible es →
    ∀ t ∈ Expr.tokensOfAll es, t.Genuine
  | [], _ => List.forall_mem_nil _
  | [e], h => by
    rw [tokensOfAll]
    exact e.genuine_tokens h.1
  | e :: e' :: es, h => by
    rw [tokensOfAll, List.forall_mem_append, List.forall_mem_cons]
    exact ⟨e.genuine_tokens h.1, genuine_sign rfl, Expr.genuine_tokensOfAll (e' :: es) h.2⟩

end

theorem genuine_inBraces {ts : List Token} (h : ∀ t ∈ ts, t.Genuine) :
    ∀ t ∈ inBraces ts, t.Genuine := by
  rw [inBraces, List.forall_mem_cons, List.forall_mem_append, List.forall_mem_singleton]
  exact ⟨genuine_sign rfl, h, genuine_sign rfl⟩

mutual

theorem Stmt.genuine_tokens : (s : Stmt) → s.Expressible → ∀ t ∈ s.tokens, t.Genuine
  | assign x e _, h => by
    rw [tokens, List.forall_mem_cons, List.forall_mem_cons, List.forall_mem_append,
      List.forall_mem_singleton]
    exact ⟨genuine_named h.1, genuine_sign rfl, e.genuine_tokens h.2, genuine_sign rfl⟩
  | ifThen c body, h => by
    rw [tokens, List.forall_mem_cons, List.forall_mem_append]
    exact ⟨genuine_sign rfl, c.genuine_tokens h.1,
      genuine_inBraces (Stmt.genuine_tokensOfAll body h.2)⟩
  | ifElse c t e, h => by
    rw [tokens, List.forall_mem_cons, List.forall_mem_append, List.forall_mem_append,
      List.forall_mem_cons]
    exact ⟨genuine_sign rfl, c.genuine_tokens h.1,
      genuine_inBraces (Stmt.genuine_tokensOfAll t h.2.1), genuine_sign rfl,
      genuine_inBraces (Stmt.genuine_tokensOfAll e h.2.2)⟩
  | loop none c body _, h => by
    rw [tokens, List.forall_mem_cons, List.forall_mem_append]
    exact ⟨genuine_sign rfl, c.genuine_tokens h.2.1,
      genuine_inBraces (Stmt.genuine_tokensOfAll body h.2.2)⟩
  | loop (some x) c body _, h => by
    rw [tokens, List.forall_mem_cons, List.forall_mem_cons, List.forall_mem_cons,
      List.forall_mem_append]
    exact ⟨genuine_named (h.1 x rfl), genuine_sign rfl, genuine_sign rfl, c.genuine_tokens h.2.1,
      genuine_inBraces (Stmt.genuine_tokensOfAll body h.2.2)⟩
  | jump j none _, _ => by
    have hj : (sign j.kind).Genuine := genuine_sign (by cases j <;> rfl)
    rw [tokens, List.forall_mem_cons, List.forall_mem_singleton]
    exact ⟨hj, genuine_sign rfl⟩
  | jump j (some x) _, h => by
    have hj : (sign j.kind).Genuine := genuine_sign (by cases j <;> rfl)
    rw [tokens, List.forall_mem_cons, List.forall_mem_cons, List.forall_mem_singleton]
    exact ⟨hj, genuine_named (h x rfl), genuine_sign rfl⟩
  | expr e, h => by
    rw [tokens, List.forall_mem_append, List.forall_mem_singleton]
    exact ⟨e.genuine_tokens h, genuine_sign rfl⟩

theorem Stmt.genuine_tokensOfAll : (ss : List Stmt) → Stmt.AllExpressible ss →
    ∀ t ∈ Stmt.tokensOfAll ss, t.Genuine
  | [], _ => List.forall_mem_nil _
  | s :: ss, h => by
    rw [tokensOfAll, List.forall_mem_append]
    exact ⟨s.genuine_tokens h.1, Stmt.genuine_tokensOfAll ss h.2⟩

end

theorem genuine_tokensOfParams : (xs : List String) → (∀ x ∈ xs, IsName x) →
    ∀ t ∈ tokensOfParams xs, t.Genuine
  | [], _ => List.forall_mem_nil _
  | [x], h => by
    rw [List.forall_mem_singleton] at h
    rw [tokensOfParams, List.forall_mem_singleton]
    exact genuine_named h
  | x :: y :: xs, h => by
    rw [List.forall_mem_cons] at h
    rw [tokensOfParams, List.forall_mem_cons, List.forall_mem_cons]
    exact ⟨genuine_named h.1, genuine_sign rfl, genuine_tokensOfParams (y :: xs) h.2⟩

theorem Item.genuine_tokens {i : Item} (h : i.Expressible) : ∀ t ∈ i.tokens, t.Genuine := by
  obtain ⟨name, params, position, body?⟩ := i
  obtain ⟨hname, hparams, hbody⟩ := h
  simp only [tokens, List.forall_mem_cons, List.forall_mem_append]
  refine ⟨genuine_sign rfl, genuine_named hname, genuine_sign rfl,
    genuine_tokensOfParams params hparams, genuine_sign rfl, ?_⟩
  cases body? with
  | none => exact List.forall_mem_singleton.mpr (genuine_sign rfl)
  | some b => exact genuine_inBraces (Stmt.genuine_tokensOfAll b (hbody b rfl))

end Tree

/-- The tokens of a program. -/
def Program.tokens (p : Program) : List Token :=
  p.items.flatMap Tree.Item.tokens

/-- The position that all tokens written down have. -/
def atStart : Position → Position := fun _ => .start

namespace Grammar

open Looplet.Tree (Expr Stmt Item tokensOfParams inBraces)

/-! ## What the tokens are read as -/

theorem IsArguments.isMore {ts : List Token} {e : Expr} {es : List Expr}
    (h : IsArguments ts (e :: es)) : IsMoreArguments ts (e :: es) := by
  cases h with
  | some h => exact h

mutual

theorem isPrimary_tokens : (e : Expr) → e.Expressible → IsPrimary e.tokens (e.moved atStart)
  | .int v, h => by
    rw [Expr.tokens, Expr.moved]
    exact .number rfl (Token.value?_numeral h)
  | .var x _, _ => by
    rw [Expr.tokens, Expr.moved]
    exact .var rfl
  | .binary op l r, h => by
    have hl := isPrimary_tokens l h.1
    have hr := isPrimary_tokens r h.2
    rw [Expr.tokens, Expr.moved]
    refine .paren rfl ?_ rfl
    cases op with
    | add => exact .sum (.add (.primary hl) rfl hr)
    | equal => exact .comparison (.sum (.primary hl)) rfl (.primary hr)
    | notEqual => exact .comparison (.sum (.primary hl)) rfl (.primary hr)
  | .call f args _, h => by
    rw [Expr.tokens, Expr.moved]
    exact .call rfl rfl (isArguments_tokens args h.2) rfl

theorem isArguments_tokens : (es : List Expr) → Expr.AllExpressible es →
    IsArguments (Expr.tokensOfAll es) (Expr.movedAll atStart es)
  | [], _ => .none
  | [e], h => by
    rw [Expr.tokensOfAll, Expr.movedAll, Expr.movedAll]
    exact .some (.one (.sum (.primary (isPrimary_tokens e h.1))))
  | e :: e' :: es, h => by
    have hrest := (isArguments_tokens (e' :: es) h.2).isMore
    rw [Expr.tokensOfAll, Expr.movedAll]
    exact .some (.more (.sum (.primary (isPrimary_tokens e h.1))) rfl hrest)

end

theorem isExpr_tokens {e : Expr} (h : e.Expressible) : IsExpr e.tokens (e.moved atStart) :=
  .sum (.primary (isPrimary_tokens e h))

theorem jump?_kind (j : Jump) : jump? j.kind = some j := by
  cases j <;> rfl

mutual

theorem isStatement_tokens : (s : Stmt) → s.Expressible → IsStatement s.tokens (s.moved atStart)
  | .assign x e _, h => by
    rw [Stmt.tokens, Stmt.moved]
    exact .assign rfl rfl (isExpr_tokens h.2) rfl
  | .ifThen c body, h => by
    rw [Stmt.tokens, Stmt.moved]
    exact .ifThen rfl (isExpr_tokens h.1) (.mk rfl (isStatements_tokens body h.2) rfl)
  | .ifElse c t e, h => by
    rw [Stmt.tokens, Stmt.moved]
    exact .ifElse rfl (isExpr_tokens h.1) (.mk rfl (isStatements_tokens t h.2.1) rfl) rfl
      (.mk rfl (isStatements_tokens e h.2.2) rfl)
  | .loop none c body _, h => by
    rw [Stmt.tokens, Stmt.moved]
    exact .loop rfl (isExpr_tokens h.2.1) (.mk rfl (isStatements_tokens body h.2.2) rfl)
  | .loop (some x) c body _, h => by
    rw [Stmt.tokens, Stmt.moved]
    exact .labelled rfl rfl rfl (isExpr_tokens h.2.1)
      (.mk rfl (isStatements_tokens body h.2.2) rfl)
  | .jump j none _, _ => by
    rw [Stmt.tokens, Stmt.moved]
    exact .jump (jump?_kind j) rfl
  | .jump j (some x) _, _ => by
    rw [Stmt.tokens, Stmt.moved]
    exact .jumpTo (jump?_kind j) rfl rfl
  | .expr e, h => by
    rw [Stmt.tokens, Stmt.moved]
    exact .expr (isExpr_tokens h) rfl

theorem isStatements_tokens : (ss : List Stmt) → Stmt.AllExpressible ss →
    IsStatements (Stmt.tokensOfAll ss) (Stmt.movedAll atStart ss)
  | [], _ => .nil
  | s :: ss, h => by
    rw [Stmt.tokensOfAll, Stmt.movedAll]
    exact .cons (isStatement_tokens s h.1) (isStatements_tokens ss h.2)

end

theorem isNames_tokens (x : String) (xs : List String) :
    IsNames (tokensOfParams (x :: xs)) (x :: xs) := by
  induction xs generalizing x with
  | nil => exact @IsNames.one (Token.named x) rfl
  | cons y xs ih => exact @IsNames.more (Token.named x) (Token.sign .comma) _ _ rfl rfl (ih y)

theorem isParams_tokens (xs : List String) : IsParams (tokensOfParams xs) xs := by
  cases xs with
  | nil => exact .none
  | cons x xs => exact .some (isNames_tokens x xs)

theorem isItem_tokens {i : Tree.Item} (h : i.Expressible) : IsItem i.tokens (i.moved atStart) := by
  obtain ⟨name, params, position, body?⟩ := i
  obtain ⟨-, -, hbody⟩ := h
  have hbody : IsBody (body?.elim [Token.sign .semicolon] fun b => inBraces (Stmt.tokensOfAll b))
      (body?.map (Stmt.movedAll atStart)) := by
    cases body? with
    | none => exact .none rfl
    | some b => exact .some (.mk rfl (isStatements_tokens b (hbody b rfl)) rfl)
  exact @IsItem.mk (Token.sign .funcWord) (Token.named name) (Token.sign .openParen)
    (Token.sign .closeParen) _ _ _ _ rfl rfl rfl (isParams_tokens params) rfl hbody

theorem isItems_tokens {is : List Tree.Item} (h : ∀ i ∈ is, i.Expressible) :
    IsItems (is.flatMap Tree.Item.tokens) (is.map (Tree.Item.moved atStart)) := by
  induction is with
  | nil => exact .nil
  | cons i is ih =>
    rw [List.forall_mem_cons] at h
    rw [List.flatMap_cons, List.map_cons]
    exact .cons (isItem_tokens h.1) (ih h.2)

end Grammar

/-! ## Texts -/

/-- The text of the tokens of an expressible program is read as that program, up to positions. -/
theorem exists_parse_of_expressible {t : Program} (h : t.Expressible) :
    ∃ p, parse (String.ofList (spaced t.tokens)) = .ok p ∧ p.SameButPlaces t := by
  have hgenuine : ∀ u ∈ t.tokens, u.Genuine := by
    intro u hu
    obtain ⟨i, hi, hu⟩ := List.mem_flatMap.mp hu
    exact Tree.Item.genuine_tokens (h i hi) u hu
  obtain ⟨us, hus, hsame⟩ := exists_tokenize_spaced hgenuine
  have hitems : Grammar.IsItems t.tokens (t.moved atStart).items := Grammar.isItems_tokens h
  have hread : Program.ofTokens (t.tokens ++ [Token.endingAt .start]) = .ok (t.moved atStart) :=
    ofTokens_of_isItems hitems rfl ⟨_, rfl, rfl⟩
  obtain ⟨p, hp, hplaces⟩ := exists_ofTokens_of_content_eq hsame hread
  refine ⟨p, parse_eq_ok.mpr ⟨us, hus, hp⟩, hplaces.trans ?_⟩
  rw [Program.moved_moved]
  rfl

/-- The programs that texts are read as are the expressible ones, up to positions: names are words
of letters, underscores and digits that are not reserved, and numbers are not negative. -/
theorem exists_parse_iff (t : Program) :
    (∃ src p, parse src = .ok p ∧ p.SameButPlaces t) ↔ t.Expressible := by
  constructor
  · rintro ⟨src, p, hp, hsame⟩
    obtain ⟨ts, e, hts, -, hprogram⟩ := exists_tokens_of_parse hp
    rw [← t.expressible_moved, ← hsame, p.expressible_moved]
    exact hprogram.expressible (genuine_of_tokenize hts)
  · intro h
    exact ⟨_, exists_parse_of_expressible h⟩

end Looplet
