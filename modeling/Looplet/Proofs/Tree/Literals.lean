import Looplet.Proofs.Tree.Language

/-!
# The literals of a tree

A tree has a literal for every number of its tokens, in the order of the text, with the value of
that number (`IsProgram.literals`). Parameters, labels and jumps have none. So what is read off any
list of tokens has the values of the numbers before the first ending token (`literals_of_ofTokens`).
-/

namespace Looplet

namespace Tree

mutual

/-- The literals in an expression, from left to right. -/
def Expr.literals : Expr → List Int64
  | .int v => [v]
  | .var _ _ => []
  | .binary _ l r => l.literals ++ r.literals
  | .call _ args _ => Expr.literalsOfAll args

/-- The literals in expressions. -/
def Expr.literalsOfAll : List Expr → List Int64
  | [] => []
  | e :: es => e.literals ++ Expr.literalsOfAll es

end

mutual

/-- The literals in a statement, from left to right. -/
def Stmt.literals : Stmt → List Int64
  | .assign _ e _ => e.literals
  | .ifThen c body => c.literals ++ Stmt.literalsOfAll body
  | .ifElse c t e => c.literals ++ (Stmt.literalsOfAll t ++ Stmt.literalsOfAll e)
  | .loop _ c body _ => c.literals ++ Stmt.literalsOfAll body
  | .jump _ _ _ => []
  | .expr e => e.literals

/-- The literals in statements. -/
def Stmt.literalsOfAll : List Stmt → List Int64
  | [] => []
  | s :: ss => s.literals ++ Stmt.literalsOfAll ss

end

/-- The literals in an item. -/
def Item.literals (i : Item) : List Int64 :=
  Stmt.literalsOfAll (i.body?.getD [])

end Tree

/-- The literals in a program. -/
def Program.literals (p : Program) : List Int64 :=
  p.items.flatMap Tree.Item.literals

namespace Grammar

open Looplet.Tree (Expr Stmt Item)

/-! ## Numbers -/

/-- What the numbers in a list of tokens stand for. -/
def numbers (ts : List Token) : List (Option Int64) :=
  (ts.filter fun t => t.kind = .number).map Token.value?

theorem numbers_append (ts us : List Token) : numbers (ts ++ us) = numbers ts ++ numbers us := by
  rw [numbers, List.filter_append, List.map_append, numbers, numbers]

@[simp] theorem numbers_nil : numbers [] = [] := rfl

theorem numbers_cons {t : Token} (ht : t.kind ≠ .number) {ts : List Token} :
    numbers (t :: ts) = numbers ts := by
  rw [numbers, List.filter_cons_of_neg (by simpa using ht), numbers]

theorem numbers_cons_of_kind {t : Token} {k : Token.Kind} (ht : t.kind = k) (hk : k ≠ .number)
    {ts : List Token} : numbers (t :: ts) = numbers ts :=
  numbers_cons (ht ▸ hk)

theorem numbers_append_of_kind {t : Token} {k : Token.Kind} (ht : t.kind = k) (hk : k ≠ .number)
    {ts : List Token} : numbers (ts ++ [t]) = numbers ts := by
  rw [numbers_append, numbers_cons_of_kind ht hk, numbers_nil, List.append_nil]

theorem ne_number_of_comparison? {k : Token.Kind} {op : BinaryOp}
    (h : Parser.comparison? k = some op) : k ≠ .number := by
  rintro rfl
  cases h

theorem ne_number_of_jump? {k : Token.Kind} {j : Jump} (h : jump? k = some j) : k ≠ .number := by
  rintro rfl
  cases h

/-! ## Expressions -/

mutual

theorem IsExpr.literals : {ts : List Token} → {e : Expr} → IsExpr ts e →
    e.literals.map some = numbers ts
  | _, _, .sum h => h.literals
  | _, _, .comparison hl ht hr => by
    rw [Expr.literals, List.map_append, hl.literals, hr.literals, numbers_append,
      numbers_cons (ne_number_of_comparison? ht)]

theorem IsSum.literals : {ts : List Token} → {e : Expr} → IsSum ts e →
    e.literals.map some = numbers ts
  | _, _, .primary h => h.literals
  | _, _, .add hl ht hr => by
    rw [Expr.literals, List.map_append, hl.literals, hr.literals, numbers_append,
      numbers_cons_of_kind ht (by decide)]

theorem IsPrimary.literals : {ts : List Token} → {e : Expr} → IsPrimary ts e →
    e.literals.map some = numbers ts
  | _, _, .number ht hv => by
    rw [Expr.literals, numbers, List.filter_cons_of_pos (by simpa using ht), List.filter_nil,
      List.map_singleton, List.map_singleton, hv]
  | _, _, .var hx => by
    rw [Expr.literals, numbers_cons_of_kind hx (by decide)]
    rfl
  | _, _, .call hx ho ha hc => by
    rw [Expr.literals, ha.literals, numbers_cons_of_kind hx (by decide),
      numbers_cons_of_kind ho (by decide), numbers_append_of_kind hc (by decide)]
  | _, _, .paren ho he hc => by
    rw [he.literals, numbers_cons_of_kind ho (by decide), numbers_append_of_kind hc (by decide)]

theorem IsArguments.literals : {ts : List Token} → {es : List Expr} → IsArguments ts es →
    (Expr.literalsOfAll es).map some = numbers ts
  | _, _, .none => by
    rw [Expr.literalsOfAll]
    rfl
  | _, _, .some h => h.literals

theorem IsMoreArguments.literals : {ts : List Token} → {es : List Expr} → IsMoreArguments ts es →
    (Expr.literalsOfAll es).map some = numbers ts
  | _, _, .one h => by
    rw [Expr.literalsOfAll, Expr.literalsOfAll, List.append_nil, h.literals]
  | _, _, .more h hc hs => by
    rw [Expr.literalsOfAll, List.map_append, h.literals, hs.literals, numbers_append,
      numbers_cons_of_kind hc (by decide)]

end

/-! ## Statements -/

mutual

theorem IsStatement.literals : {ts : List Token} → {s : Stmt} → IsStatement ts s →
    s.literals.map some = numbers ts
  | _, _, .assign hx ha he hs => by
    rw [Stmt.literals, he.literals, numbers_cons_of_kind hx (by decide),
      numbers_cons_of_kind ha (by decide), numbers_append_of_kind hs (by decide)]
  | _, _, .ifThen hi hc ht => by
    rw [Stmt.literals, List.map_append, hc.literals, ht.literals,
      numbers_cons_of_kind hi (by decide), numbers_append]
  | _, _, .ifElse hi hc ht hl he => by
    rw [Stmt.literals, List.map_append, List.map_append, hc.literals, ht.literals, he.literals,
      numbers_cons_of_kind hi (by decide), numbers_append, numbers_append,
      numbers_cons_of_kind hl (by decide)]
  | _, _, .loop hw hc hb => by
    rw [Stmt.literals, List.map_append, hc.literals, hb.literals,
      numbers_cons_of_kind hw (by decide), numbers_append]
  | _, _, .labelled hx hk hw hc hb => by
    rw [Stmt.literals, List.map_append, hc.literals, hb.literals,
      numbers_cons_of_kind hx (by decide), numbers_cons_of_kind hk (by decide),
      numbers_cons_of_kind hw (by decide), numbers_append]
  | _, _, .jump hk hs => by
    rw [Stmt.literals, numbers_cons (ne_number_of_jump? hk), numbers_cons_of_kind hs (by decide)]
    rfl
  | _, _, .jumpTo hk hx hs => by
    rw [Stmt.literals, numbers_cons (ne_number_of_jump? hk), numbers_cons_of_kind hx (by decide),
      numbers_cons_of_kind hs (by decide)]
    rfl
  | _, _, .expr he hs => by
    rw [Stmt.literals, he.literals, numbers_append_of_kind hs (by decide)]

theorem IsBlock.literals : {ts : List Token} → {b : List Stmt} → IsBlock ts b →
    (Stmt.literalsOfAll b).map some = numbers ts
  | _, _, .mk ho h hc => by
    rw [h.literals, numbers_cons_of_kind ho (by decide), numbers_append_of_kind hc (by decide)]

theorem IsStatements.literals : {ts : List Token} → {ss : List Stmt} → IsStatements ts ss →
    (Stmt.literalsOfAll ss).map some = numbers ts
  | _, _, .nil => by
    rw [Stmt.literalsOfAll]
    rfl
  | _, _, .cons h hs => by
    rw [Stmt.literalsOfAll, List.map_append, h.literals, hs.literals, numbers_append]

end

/-! ## Programs -/

theorem IsNames.numbers_eq_nil {ts : List Token} {xs : List String} (h : IsNames ts xs) :
    numbers ts = [] := by
  induction h with
  | one hx => exact numbers_cons_of_kind hx (by decide)
  | more hx hc _ ih =>
    rwa [numbers_cons_of_kind hx (by decide), numbers_cons_of_kind hc (by decide)]

theorem IsParams.numbers_eq_nil {ts : List Token} {xs : List String} (h : IsParams ts xs) :
    numbers ts = [] := by
  cases h with
  | none => rfl
  | some h => exact h.numbers_eq_nil

theorem IsBody.literals {ts : List Token} {b : Option (List Stmt)} (h : IsBody ts b) :
    (Stmt.literalsOfAll (b.getD [])).map Option.some = numbers ts := by
  cases h with
  | none hs =>
    rw [numbers_cons_of_kind hs (by decide), Option.getD_none, Stmt.literalsOfAll]
    rfl
  | some h => exact h.literals

theorem IsItem.literals {ts : List Token} {i : Item} (h : IsItem ts i) :
    i.literals.map some = numbers ts := by
  cases h with
  | mk hf hx ho hp hc hb =>
    rw [Item.literals, hb.literals, numbers_cons_of_kind hf (by decide),
      numbers_cons_of_kind hx (by decide), numbers_cons_of_kind ho (by decide), numbers_append,
      hp.numbers_eq_nil, numbers_cons_of_kind hc (by decide), List.nil_append]

theorem IsItems.literals {ts : List Token} {is : List Item} (h : IsItems ts is) :
    (is.flatMap Item.literals).map some = numbers ts := by
  induction h with
  | nil => rfl
  | cons hi _ ih => rw [List.flatMap_cons, List.map_append, hi.literals, ih, numbers_append]

/-- The literals in a program are what its numbers stand for, in the same order. -/
theorem IsProgram.literals {ts : List Token} {p : Program} (h : IsProgram ts p) :
    p.literals.map some = numbers ts :=
  IsItems.literals h

end Grammar

/-- What is read off a list of tokens has the literals that the numbers before the first ending
token stand for: all of them, in the same order. -/
theorem literals_of_ofTokens {ts : List Token} {p : Program} (h : Program.ofTokens ts = .ok p) :
    p.literals.map some = Grammar.numbers (ts.takeWhile fun t => t.kind ≠ .ending) := by
  by_cases hts : Parser.Terminated ts
  · rw [Parser.ofTokens_eq_ok hts] at h
    obtain ⟨before, e, after, rfl, hbefore, he⟩ := Parser.exists_first_ending hts
    have hp : Grammar.IsProgram before p := (Parser.items_eq_ok hbefore he).mp h
    have hfront : (before ++ e :: after).takeWhile (fun t => t.kind ≠ .ending) = before := by
      rw [List.takeWhile_append_of_pos (by simpa using hbefore),
        List.takeWhile_cons_of_neg (by simpa using he), List.append_nil]
    rw [hp.literals, hfront]
  · rw [Parser.ofTokens_of_not_terminated hts] at h
    cases h

end Looplet
