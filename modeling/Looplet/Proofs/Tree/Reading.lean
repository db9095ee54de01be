import Looplet.Proofs.Result
import Looplet.Tree.Parser

/-!
# What the descent reads

The steps of the descent carry the proof that they leave fewer tokens. Without it (`read`) they are
equations between plain results, one for each case of a step, and these are all that is needed to
relate the descent to the grammar.
-/

namespace Looplet.Parser

open Looplet.Tree (Expr Stmt Item)

variable {α : Type} {n : Nat} {t : Token} {ts rest : List Token}

/-- What a step reads and leaves, or its mismatch. -/
def read (s : Step α n) : Except Mismatch (α × List Token) :=
  match s with
  | .error m => .error m
  | .ok p => .ok (p.value, p.rest)

@[simp] theorem read_ok (p : Parsed α n) : read (.ok p : Step α n) = .ok (p.value, p.rest) := rfl

@[simp] theorem read_error (m : Mismatch) : read (.error m : Step α n) = .error m := rfl

/-- What is left is shorter. -/
theorem length_lt_of_read {s : Step α n} {a : α} (h : read s = .ok (a, rest)) :
    rest.length < n := by
  cases s with
  | error m => cases h
  | ok p =>
    cases h
    exact p.shorter

/-! ## Tokens -/

theorem nextIs_cons (k : Token.Kind) (t : Token) (ts : List Token) :
    nextIs k (t :: ts) = decide (t.kind = k) := rfl

theorem nextIs_iff {k : Token.Kind} :
    nextIs k ts = true ↔ ∃ t us, ts = t :: us ∧ t.kind = k := by
  cases ts with
  | nil => simp [nextIs]
  | cons t us => simp [nextIs]

theorem read_expect (k : Token.Kind) (t : Token) (ts : List Token) :
    read (expect k (t :: ts)) =
      if t.kind = k then .ok (t, ts) else .error ⟨.kind k, some t⟩ := by
  rw [expect]
  split <;> rfl

theorem read_expect_eq_ok {k : Token.Kind} {p : Token × List Token} :
    read (expect k ts) = .ok p ↔ ts = p.1 :: p.2 ∧ p.1.kind = k := by
  cases ts with
  | nil => simp [expect]
  | cons t ts =>
    rw [read_expect]
    by_cases hk : t.kind = k
    · rw [if_pos hk]
      constructor
      · rintro ⟨⟩
        exact ⟨rfl, hk⟩
      · rintro ⟨h, -⟩
        cases h
        rfl
    · rw [if_neg hk]
      constructor
      · intro h
        cases h
      · rintro ⟨h, hk'⟩
        cases h
        exact absurd hk' hk

/-! ## Expressions -/

theorem read_expr (ts : List Token) :
    read (expr ts) = (do
      let l ← read (sum ts)
      read (comparisons l.1 l.2)) := by
  rw [expr]
  cases sum ts with
  | error m => rfl
  | ok l =>
    simp only [read_ok, ok_bind]
    cases comparisons l.value l.rest <;> rfl

theorem read_comparisons_nil (lhs : Expr) : read (comparisons lhs []) = .ok (lhs, []) := by
  rw [comparisons]
  rfl

theorem read_comparisons_stop (lhs : Expr) (h : comparison? t.kind = none) :
    read (comparisons lhs (t :: ts)) = .ok (lhs, t :: ts) := by
  rw [comparisons]
  simp only [h]
  rfl

theorem read_comparisons_more (lhs : Expr) {op : BinaryOp} (h : comparison? t.kind = some op) :
    read (comparisons lhs (t :: ts)) = (do
      let r ← read (sum ts)
      read (comparisons (.binary op lhs r.1) r.2)) := by
  rw [comparisons]
  simp only [h]
  cases sum ts with
  | error m => rfl
  | ok r =>
    simp only [read_ok, ok_bind]
    cases comparisons (.binary op lhs r.value) r.rest <;> rfl

theorem read_sum (ts : List Token) :
    read (sum ts) = (do
      let l ← read (primary ts)
      read (additions l.1 l.2)) := by
  rw [sum]
  cases primary ts with
  | error m => rfl
  | ok l =>
    simp only [read_ok, ok_bind]
    cases additions l.value l.rest <;> rfl

theorem read_additions_stop (lhs : Expr) (h : nextIs .plus ts = false) :
    read (additions lhs ts) = .ok (lhs, ts) := by
  cases ts with
  | nil =>
    rw [additions]
    rfl
  | cons t ts =>
    rw [nextIs_cons, decide_eq_false_iff_not] at h
    rw [additions, if_neg h]
    rfl

theorem read_additions_more (lhs : Expr) (h : t.kind = .plus) :
    read (additions lhs (t :: ts)) = (do
      let r ← read (primary ts)
      read (additions (.binary .add lhs r.1) r.2)) := by
  rw [additions, if_pos h]
  cases primary ts with
  | error m => rfl
  | ok r =>
    simp only [read_ok, ok_bind]
    cases additions (.binary .add lhs r.value) r.rest <;> rfl

theorem read_primary_nil : read (primary []) = .error ⟨.expression, none⟩ := by
  rw [primary]
  rfl

theorem read_primary_number (h : t.kind = .number) :
    read (primary (t :: ts)) =
      match t.value? with
      | none => .error ⟨.kind .number, some t⟩
      | some v => .ok (.int v, ts) := by
  rw [primary]
  simp only [h]
  cases t.value? <;> rfl

theorem read_primary_var (h : t.kind = .name) (ho : nextIs .openParen ts = false) :
    read (primary (t :: ts)) = .ok (.var t.text t.position, ts) := by
  rw [primary]
  simp only [h, ho]
  rfl

theorem read_primary_call {o : Token} (h : t.kind = .name) (ho : o.kind = .openParen) :
    read (primary (t :: o :: ts)) = (do
      let a ← read (arguments ts)
      return (.call t.text a.1 t.position, a.2)) := by
  rw [primary]
  simp only [h, nextIs_cons, ho, decide_true, if_true, List.tail_cons]
  cases arguments ts <;> rfl

theorem read_primary_paren (h : t.kind = .openParen) :
    read (primary (t :: ts)) = (do
      let e ← read (expr ts)
      let c ← read (expect .closeParen e.2)
      return (e.1, c.2)) := by
  rw [primary]
  simp only [h]
  cases expr ts with
  | error m => rfl
  | ok e =>
    simp only [read_ok, ok_bind]
    cases expect .closeParen e.rest <;> rfl

theorem read_primary_other (hnumber : t.kind ≠ .number) (hname : t.kind ≠ .name)
    (hparen : t.kind ≠ .openParen) :
    read (primary (t :: ts)) = .error ⟨.expression, some t⟩ := by
  rw [primary]
  split
  · exact absurd ‹_› hnumber
  · exact absurd ‹_› hname
  · exact absurd ‹_› hparen
  · rfl

theorem read_arguments_none (h : t.kind = .closeParen) :
    read (arguments (t :: ts)) = .ok ([], ts) := by
  rw [arguments, dif_pos (by simpa [nextIs_cons] using h)]
  rfl

theorem read_arguments_some (h : nextIs .closeParen ts = false) :
    read (arguments ts) = read (moreArguments ts) := by
  rw [arguments, dif_neg (by simp [h])]

/-- After an argument comes a comma and another one, or the parenthesis that closes them. -/
theorem read_moreArguments (ts : List Token) :
    read (moreArguments ts) = (do
      let e ← read (expr ts)
      if nextIs .comma e.2 then do
        let a ← read (moreArguments e.2.tail)
        return (e.1 :: a.1, a.2)
      else do
        let c ← read (expect .closeParen e.2)
        return ([e.1], c.2)) := by
  rw [moreArguments]
  cases expr ts with
  | error m => rfl
  | ok e =>
    simp only [read_ok, ok_bind]
    split
    · cases moreArguments e.rest.tail <;> rfl
    · cases expect .closeParen e.rest <;> rfl

/-! ## Statements -/

theorem read_ended {s : Stmt} (h : ts.length < n) :
    read (ended s ts h) = (do
      let c ← read (expect .semicolon ts)
      return (s, c.2)) := by
  rw [ended]
  cases expect .semicolon ts <;> rfl

theorem read_expression (ts : List Token) :
    read (expression ts) = (do
      let e ← read (expr ts)
      let c ← read (expect .semicolon e.2)
      return (.expr e.1, c.2)) := by
  rw [expression]
  cases expr ts with
  | error m => rfl
  | ok e =>
    simp only [read_ok, ok_bind]
    rw [read_ended]

theorem read_jump_label (j : Jump) (p : Position) (h : t.kind = .name) :
    read (jump j p (t :: ts)) = (do
      let c ← read (expect .semicolon ts)
      return (.jump j (some t.text) p, c.2)) := by
  rw [jump, if_pos h, read_ended]

theorem read_jump (j : Jump) (p : Position) (h : nextIs .name ts = false) :
    read (jump j p ts) = (do
      let c ← read (expect .semicolon ts)
      return (.jump j none p, c.2)) := by
  cases ts with
  | nil => rw [jump, read_ended]
  | cons t ts =>
    rw [nextIs_cons, decide_eq_false_iff_not] at h
    rw [jump, if_neg h, read_ended]

theorem read_block (ts : List Token) :
    read (block ts) = (do
      let o ← read (expect .openBrace ts)
      read (statements o.2)) := by
  rw [block]
  cases expect .openBrace ts with
  | error m => rfl
  | ok o =>
    simp only [read_ok, ok_bind]
    cases statements o.rest <;> rfl

theorem read_statements_nil : read (statements []) = .error ⟨.kind .closeBrace, none⟩ := by
  rw [statements]
  rfl

theorem read_statements_end (h : t.kind = .closeBrace) :
    read (statements (t :: ts)) = .ok ([], ts) := by
  rw [statements, if_pos h]
  rfl

theorem read_statements_ending (h : t.kind = .ending) :
    read (statements (t :: ts)) = .error ⟨.kind .closeBrace, some t⟩ := by
  rw [statements, if_neg (by rw [h]; decide), if_pos h]
  rfl

theorem read_statements_more (h : t.kind ≠ .closeBrace) (he : t.kind ≠ .ending) :
    read (statements (t :: ts)) = (do
      let s ← read (statement (t :: ts))
      let b ← read (statements s.2)
      return (s.1 :: b.1, b.2)) := by
  rw [statements, if_neg h, if_neg he]
  cases statement (t :: ts) with
  | error m => rfl
  | ok s =>
    simp only [read_ok, ok_bind]
    cases statements s.rest <;> rfl

theorem read_statement_nil : read (statement []) = .error ⟨.expression, none⟩ := by
  rw [statement]
  rfl

theorem read_statement_if (h : t.kind = .ifWord) :
    read (statement (t :: ts)) = read (branch ts) := by
  rw [statement]
  simp only [h]
  cases branch ts <;> rfl

theorem read_statement_while (h : t.kind = .whileWord) :
    read (statement (t :: ts)) = read (loop none t.position ts) := by
  rw [statement]
  simp only [h]
  cases loop none t.position ts <;> rfl

theorem read_statement_break (h : t.kind = .breakWord) :
    read (statement (t :: ts)) = read (jump .leave t.position ts) := by
  rw [statement]
  simp only [h]

theorem read_statement_continue (h : t.kind = .continueWord) :
    read (statement (t :: ts)) = read (jump .again t.position ts) := by
  rw [statement]
  simp only [h]

theorem read_statement_assign {a : Token} (h : t.kind = .name) (ha : a.kind = .arrow) :
    read (statement (t :: a :: ts)) = (do
      let e ← read (expr ts)
      let c ← read (expect .semicolon e.2)
      return (.assign t.text e.1 t.position, c.2)) := by
  rw [statement]
  simp only [h, nextIs_cons, ha, decide_true, if_true, List.tail_cons]
  cases expr ts with
  | error m => rfl
  | ok e =>
    simp only [read_ok, ok_bind]
    rw [read_ended]

/-- After a label and its colon comes a loop. -/
theorem read_statement_label {c : Token} (h : t.kind = .name) (hc : c.kind = .colon) :
    read (statement (t :: c :: ts)) =
      if nextIs .whileWord ts then read (loop (some t.text) t.position ts.tail)
      else .error ⟨.loopAfterLabel, ts.head?⟩ := by
  rw [statement]
  cases hw : nextIs .whileWord ts with
  | true =>
    simp only [h, nextIs_cons, hc, reduceCtorEq, decide_false, Bool.false_eq_true, if_false,
      decide_true, if_true, List.tail_cons, hw]
    cases loop (some t.text) t.position ts.tail <;> rfl
  | false =>
    simp only [h, nextIs_cons, hc, reduceCtorEq, decide_false, Bool.false_eq_true, if_false,
      decide_true, if_true, List.tail_cons, hw]
    rfl

theorem read_statement_expression (hif : t.kind ≠ .ifWord) (hwhile : t.kind ≠ .whileWord)
    (hbreak : t.kind ≠ .breakWord) (hcontinue : t.kind ≠ .continueWord)
    (harrow : t.kind = .name → nextIs .arrow ts = false)
    (hcolon : t.kind = .name → nextIs .colon ts = false) :
    read (statement (t :: ts)) = read (expression (t :: ts)) := by
  rw [statement]
  split
  · exact absurd ‹_› hif
  · exact absurd ‹_› hwhile
  · exact absurd ‹_› hbreak
  · exact absurd ‹_› hcontinue
  · next hname =>
    simp only [harrow hname, hcolon hname]
    rfl
  · rfl

/-- After the first part of a conditional comes the word for the other one, or nothing. -/
theorem read_branch (ts : List Token) :
    read (branch ts) = (do
      let c ← read (expr ts)
      let b ← read (block c.2)
      if nextIs .elseWord b.2 then do
        let e ← read (block b.2.tail)
        return (.ifElse c.1 b.1 e.1, e.2)
      else return (.ifThen c.1 b.1, b.2)) := by
  rw [branch]
  cases expr ts with
  | error m => rfl
  | ok c =>
    simp only [read_ok, ok_bind]
    cases block c.rest with
    | error m => rfl
    | ok b =>
      simp only [read_ok, ok_bind]
      split
      · cases block b.rest.tail <;> rfl
      · rfl

theorem read_loop (label? : Option String) (p : Position) (ts : List Token) :
    read (loop label? p ts) = (do
      let c ← read (expr ts)
      let b ← read (block c.2)
      return (.loop label? c.1 b.1 p, b.2)) := by
  rw [loop]
  cases expr ts with
  | error m => rfl
  | ok c =>
    simp only [read_ok, ok_bind]
    cases block c.rest <;> rfl

/-! ## Items -/

/-- After a parameter comes a comma and another one, or the parenthesis that closes them. -/
theorem read_moreParams (ts : List Token) :
    read (moreParams ts) = (do
      let x ← read (expect .name ts)
      if nextIs .comma x.2 then do
        let a ← read (moreParams x.2.tail)
        return (x.1.text :: a.1, a.2)
      else do
        let c ← read (expect .closeParen x.2)
        return ([x.1.text], c.2)) := by
  rw [moreParams]
  cases expect .name ts with
  | error m => rfl
  | ok x =>
    simp only [read_ok, ok_bind]
    split
    · cases moreParams x.rest.tail <;> rfl
    · cases expect .closeParen x.rest <;> rfl

theorem read_params_none (h : t.kind = .closeParen) :
    read (params (t :: ts)) = .ok ([], ts) := by
  rw [params, dif_pos (by simpa [nextIs_cons] using h)]
  rfl

theorem read_params_some (h : nextIs .closeParen ts = false) :
    read (params ts) = read (moreParams ts) := by
  rw [params, dif_neg (by simp [h])]

theorem read_body_none (h : t.kind = .semicolon) : read (body (t :: ts)) = .ok (none, ts) := by
  rw [body, dif_pos (by simpa [nextIs_cons] using h)]
  rfl

theorem read_body_some (h : t.kind = .openBrace) :
    read (body (t :: ts)) = (do
      let b ← read (block (t :: ts))
      return (some b.1, b.2)) := by
  rw [body, dif_neg (by simp [nextIs_cons, h]), if_pos (by simpa [nextIs_cons] using h)]
  cases block (t :: ts) <;> rfl

theorem read_body_other (hs : nextIs .semicolon ts = false) (ho : nextIs .openBrace ts = false) :
    read (body ts) = .error ⟨.semicolonOrBody, ts.head?⟩ := by
  rw [body, dif_neg (by simp [hs]), if_neg (by simp [ho])]
  rfl

theorem read_item (ts : List Token) :
    read (item ts) = (do
      let f ← read (expect .funcWord ts)
      let x ← read (expect .name f.2)
      let o ← read (expect .openParen x.2)
      let ps ← read (params o.2)
      let b ← read (body ps.2)
      return (⟨x.1.text, ps.1, f.1.position, b.1⟩, b.2)) := by
  rw [item]
  cases expect .funcWord ts with
  | error m => rfl
  | ok f =>
    simp only [read_ok, ok_bind]
    cases expect .name f.rest with
    | error m => rfl
    | ok x =>
      simp only [read_ok, ok_bind]
      cases expect .openParen x.rest with
      | error m => rfl
      | ok o =>
        simp only [read_ok, ok_bind]
        cases params o.rest with
        | error m => rfl
        | ok ps =>
          simp only [read_ok, ok_bind]
          cases body ps.rest <;> rfl

theorem items_nil : items [] = .ok [] := by
  rw [items]

theorem items_ending (h : t.kind = .ending) : items (t :: ts) = .ok [] := by
  rw [items, if_pos h]

theorem items_more (h : t.kind ≠ .ending) :
    items (t :: ts) = (do
      let i ← read (item (t :: ts))
      let is ← items i.2
      return i.1 :: is) := by
  rw [items, if_neg h]
  cases item (t :: ts) with
  | error m => rfl
  | ok i =>
    simp only [read_ok, ok_bind]
    cases items i.rest <;> rfl

end Looplet.Parser
