import Looplet.Proofs.Tree.Soundness

/-!
# What is in the grammar is read

What follows a derivation decides whether the descent stops at its end: a primary expression ends
where no parenthesis opens, a sum where no plus follows either, an expression where no comparison
sign follows, and a conditional without a second part where no word for one follows.
-/

namespace Looplet

namespace Grammar

open Looplet.Tree (Expr Stmt Item)

/-! ## How derivations start -/

/-- The token can be the first one of an expression. -/
def StartsExpr (t : Token) : Prop :=
  t.kind = .number ∨ t.kind = .name ∨ t.kind = .openParen

theorem IsPrimary.starts {ts : List Token} {e : Expr} (h : IsPrimary ts e) :
    ∃ t us, ts = t :: us ∧ StartsExpr t := by
  cases h with
  | number ht => exact ⟨_, _, rfl, .inl ht⟩
  | var hx => exact ⟨_, _, rfl, .inr (.inl hx)⟩
  | call hx => exact ⟨_, _, rfl, .inr (.inl hx)⟩
  | paren ho => exact ⟨_, _, rfl, .inr (.inr ho)⟩

theorem IsSum.starts : {ts : List Token} → {e : Expr} → IsSum ts e →
    ∃ t us, ts = t :: us ∧ StartsExpr t
  | _, _, .primary h => h.starts
  | _, _, .add hl _ _ => by
    obtain ⟨t, us, rfl, ht⟩ := hl.starts
    exact ⟨t, _, rfl, ht⟩

theorem IsExpr.starts : {ts : List Token} → {e : Expr} → IsExpr ts e →
    ∃ t us, ts = t :: us ∧ StartsExpr t
  | _, _, .sum h => h.starts
  | _, _, .comparison hl _ _ => by
    obtain ⟨t, us, rfl, ht⟩ := hl.starts
    exact ⟨t, _, rfl, ht⟩

theorem IsMoreArguments.starts {ts : List Token} {es : List Expr} (h : IsMoreArguments ts es) :
    ∃ t us, ts = t :: us ∧ StartsExpr t := by
  cases h with
  | one h => exact h.starts
  | more h =>
    obtain ⟨t, us, rfl, ht⟩ := h.starts
    exact ⟨t, _, rfl, ht⟩

theorem IsStatement.starts {ts : List Token} {s : Stmt} (h : IsStatement ts s) :
    ∃ t us, ts = t :: us ∧ t.kind ≠ .closeBrace ∧ t.kind ≠ .ending ∧ t.kind ≠ .elseWord := by
  cases h with
  | assign hx => exact ⟨_, _, rfl, by rw [hx]; decide⟩
  | ifThen hi => exact ⟨_, _, rfl, by rw [hi]; decide⟩
  | ifElse hi => exact ⟨_, _, rfl, by rw [hi]; decide⟩
  | loop hw => exact ⟨_, _, rfl, by rw [hw]; decide⟩
  | labelled hx => exact ⟨_, _, rfl, by rw [hx]; decide⟩
  | jump hk | jumpTo hk =>
    refine ⟨_, _, rfl, ?_, ?_, ?_⟩
    all_goals
      intro h
      rw [h] at hk
      cases hk
  | expr he =>
    obtain ⟨t, us, rfl, ht⟩ := he.starts
    refine ⟨t, _, rfl, ?_⟩
    obtain ht | ht | ht := ht <;> rw [ht] <;> decide

/-! ## What expressions are made of -/

/-- The token can be in an expression: it does not assign, end a label or end the input. -/
def InExpr (t : Token) : Prop :=
  t.kind ≠ .arrow ∧ t.kind ≠ .colon ∧ t.kind ≠ .ending

mutual

theorem IsExpr.inExpr : {ts : List Token} → {e : Expr} → IsExpr ts e → ∀ t ∈ ts, InExpr t
  | _, _, .sum h => h.inExpr
  | _, _, .comparison hl ht hr => by
    rw [List.forall_mem_append, List.forall_mem_cons]
    refine ⟨hl.inExpr, ⟨?_, ?_, ?_⟩, hr.inExpr⟩
    all_goals
      intro h
      rw [h] at ht
      cases ht

theorem IsSum.inExpr : {ts : List Token} → {e : Expr} → IsSum ts e → ∀ t ∈ ts, InExpr t
  | _, _, .primary h => h.inExpr
  | _, _, .add hl ht hr => by
    rw [List.forall_mem_append, List.forall_mem_cons]
    exact ⟨hl.inExpr, by rw [InExpr, ht]; decide, hr.inExpr⟩

theorem IsPrimary.inExpr : {ts : List Token} → {e : Expr} → IsPrimary ts e → ∀ t ∈ ts, InExpr t
  | _, _, .number ht _ => by
    rw [List.forall_mem_singleton, InExpr, ht]
    decide
  | _, _, .var hx => by
    rw [List.forall_mem_singleton, InExpr, hx]
    decide
  | _, _, .call hx ho ha hc => by
    rw [List.forall_mem_cons, List.forall_mem_cons, List.forall_mem_append,
      List.forall_mem_singleton]
    simp only [InExpr, hx, ho, hc]
    exact ⟨by decide, by decide, ha.inExpr, by decide⟩
  | _, _, .paren ho he hc => by
    rw [List.forall_mem_cons, List.forall_mem_append, List.forall_mem_singleton]
    simp only [InExpr, ho, hc]
    exact ⟨by decide, he.inExpr, by decide⟩

theorem IsArguments.inExpr : {ts : List Token} → {es : List Expr} → IsArguments ts es →
    ∀ t ∈ ts, InExpr t
  | _, _, .none => List.forall_mem_nil _
  | _, _, .some h => h.inExpr

theorem IsMoreArguments.inExpr : {ts : List Token} → {es : List Expr} → IsMoreArguments ts es →
    ∀ t ∈ ts, InExpr t
  | _, _, .one h => h.inExpr
  | _, _, .more h hc hs => by
    rw [List.forall_mem_append, List.forall_mem_cons]
    exact ⟨h.inExpr, by rw [InExpr, hc]; decide, hs.inExpr⟩

end

end Grammar

namespace Parser

open Looplet.Tree (Expr Stmt Item)
open Grammar

theorem nextIs_append {k : Token.Kind} {ts : List Token} (rest : List Token)
    (h : ∃ t us, ts = t :: us ∧ t.kind ≠ k) : nextIs k (ts ++ rest) = false := by
  obtain ⟨t, us, rfl, ht⟩ := h
  rw [List.cons_append, nextIs_cons, decide_eq_false ht]

/-! ## Expressions -/

/-- What comes next cannot extend an expression. -/
structure Ends (ts : List Token) : Prop where
  noParen : nextIs .openParen ts = false
  noPlus : nextIs .plus ts = false
  noComparison : ∀ t ∈ ts.head?, comparison? t.kind = none

theorem ends_cons {t : Token} {k : Token.Kind} (ht : t.kind = k)
    (hk : k ∈ [.closeParen, .comma, .semicolon, .openBrace]) (ts : List Token) :
    Ends (t :: ts) := by
  subst ht
  simp only [List.mem_cons, List.not_mem_nil, or_false] at hk
  obtain hk | hk | hk | hk := hk
  all_goals
    refine ⟨by rw [nextIs_cons, hk]; rfl, by rw [nextIs_cons, hk]; rfl, ?_⟩
    rintro _ ⟨⟩
    rw [hk]
    rfl

theorem read_comparisons_of_ends (e : Expr) {rest : List Token} (h : Ends rest) :
    read (comparisons e rest) = .ok (e, rest) := by
  cases rest with
  | nil => exact read_comparisons_nil e
  | cons t ts => exact read_comparisons_stop e (h.noComparison t rfl)

mutual

theorem read_expr_of_isExpr : {ts : List Token} → {e : Expr} → IsExpr ts e →
    (rest : List Token) → nextIs .openParen rest = false → nextIs .plus rest = false →
    read (expr (ts ++ rest)) = read (comparisons e rest)
  | _, e, .sum h, rest, ho, hp => by
    rw [read_expr, read_sum_of_isSum h rest ho, read_additions_stop e hp]
    rfl
  | _, _, @IsExpr.comparison ls rs l r t op hl ht hr, rest, ho, hp => by
    have hopen : nextIs .openParen (t :: (rs ++ rest)) = false := by
      rw [nextIs_cons, decide_eq_false]
      intro hk
      rw [hk] at ht
      cases ht
    have hplus : nextIs .plus (t :: (rs ++ rest)) = false := by
      rw [nextIs_cons, decide_eq_false]
      intro hk
      rw [hk] at ht
      cases ht
    rw [List.append_assoc, List.cons_append, read_expr_of_isExpr hl _ hopen hplus,
      read_comparisons_more l ht, read_sum_of_isSum hr rest ho, read_additions_stop r hp]
    rfl

theorem read_sum_of_isSum : {ts : List Token} → {e : Expr} → IsSum ts e →
    (rest : List Token) → nextIs .openParen rest = false →
    read (sum (ts ++ rest)) = read (additions e rest)
  | _, _, .primary h, rest, ho => by
    rw [read_sum, read_primary_of_isPrimary h rest ho]
    rfl
  | _, _, @IsSum.add ls rs l r t hl ht hr, rest, ho => by
    have hopen : nextIs .openParen (t :: (rs ++ rest)) = false := by
      rw [nextIs_cons, ht]
      rfl
    rw [List.append_assoc, List.cons_append, read_sum_of_isSum hl _ hopen,
      read_additions_more l ht, read_primary_of_isPrimary hr rest ho]
    rfl

theorem read_primary_of_isPrimary : {ts : List Token} → {e : Expr} → IsPrimary ts e →
    (rest : List Token) → nextIs .openParen rest = false →
    read (primary (ts ++ rest)) = .ok (e, rest)
  | _, _, .number ht hv, rest, _ => by
    rw [List.singleton_append, read_primary_number ht, hv]
  | _, _, .var hx, rest, ho => by
    rw [List.singleton_append, read_primary_var hx ho]
  | _, _, @IsPrimary.call x o c ts es hx ho ha hc, rest, _ => by
    rw [List.cons_append, List.cons_append, List.append_assoc, List.singleton_append,
      read_primary_call hx ho, read_arguments_of_isArguments ha hc rest]
    rfl
  | _, _, @IsPrimary.paren o c ts e ho he hc, rest, _ => by
    have hends := ends_cons hc (by decide) rest
    rw [List.cons_append, List.append_assoc, List.singleton_append, read_primary_paren ho,
      read_expr_of_isExpr he _ hends.noParen hends.noPlus, read_comparisons_of_ends e hends,
      ok_bind, read_expect, if_pos hc]
    rfl

theorem read_arguments_of_isArguments : {ts : List Token} → {es : List Expr} →
    IsArguments ts es → {c : Token} → c.kind = .closeParen → (rest : List Token) →
    read (arguments (ts ++ c :: rest)) = .ok (es, rest)
  | _, _, .none, c, hc, rest => by
    rw [List.nil_append, read_arguments_none hc]
  | ts, _, .some h, c, hc, rest => by
    obtain ⟨t, us, hts, ht⟩ := h.starts
    have hnext : nextIs .closeParen (ts ++ c :: rest) = false := by
      refine nextIs_append _ ⟨t, us, hts, ?_⟩
      obtain ht | ht | ht := ht <;> rw [ht] <;> decide
    rw [read_arguments_some hnext, read_moreArguments_of_isMoreArguments h hc rest]

theorem read_moreArguments_of_isMoreArguments : {ts : List Token} → {es : List Expr} →
    IsMoreArguments ts es → {c : Token} → c.kind = .closeParen → (rest : List Token) →
    read (moreArguments (ts ++ c :: rest)) = .ok (es, rest)
  | _, _, @IsMoreArguments.one ts e h, c, hc, rest => by
    have hends := ends_cons hc (by decide) rest
    rw [read_moreArguments, read_expr_of_isExpr h _ hends.noParen hends.noPlus,
      read_comparisons_of_ends e hends, ok_bind, nextIs_cons, hc, if_neg (by decide), read_expect,
      if_pos hc]
    rfl
  | _, _, @IsMoreArguments.more ts us e es k h hk hs, c, hc, rest => by
    have hends := ends_cons hk (by decide) (us ++ c :: rest)
    rw [List.append_assoc, List.cons_append, read_moreArguments,
      read_expr_of_isExpr h _ hends.noParen hends.noPlus, read_comparisons_of_ends e hends, ok_bind,
      nextIs_cons, hk, if_pos (by decide), List.tail_cons,
      read_moreArguments_of_isMoreArguments hs hc rest]
    rfl

end

theorem read_expr_of_ends {ts : List Token} {e : Expr} (h : IsExpr ts e) {rest : List Token}
    (hends : Ends rest) : read (expr (ts ++ rest)) = .ok (e, rest) := by
  rw [read_expr_of_isExpr h rest hends.noParen hends.noPlus, read_comparisons_of_ends e hends]

/-! ## Statements -/

theorem read_expect_of_kind {k : Token.Kind} {t : Token} (ht : t.kind = k) (ts : List Token) :
    read (expect k (t :: ts)) = .ok (t, ts) :=
  read_expect_eq_ok.mpr ⟨rfl, ht⟩

/-- An expression that starts a statement is not taken for an assignment or for a label. -/
theorem read_statement_of_isExpr {ts : List Token} {e : Expr} (h : IsExpr ts e) {s : Token}
    (hs : s.kind = .semicolon) (rest : List Token) :
    read (statement (ts ++ s :: rest)) = .ok (.expr e, rest) := by
  obtain ⟨t, us, rfl, ht⟩ := h.starts
  have hin := h.inExpr
  have hnext : ∀ k, (k = .arrow ∨ k = .colon) → nextIs k (us ++ s :: rest) = false := by
    intro k hk
    cases us with
    | nil =>
      rw [List.nil_append, nextIs_cons, hs]
      obtain rfl | rfl := hk <;> rfl
    | cons u us =>
      have hu : InExpr u := hin u (by simp)
      refine nextIs_append _ ⟨u, us, rfl, ?_⟩
      obtain rfl | rfl := hk
      · exact hu.1
      · exact hu.2.1
  have hfirst : t.kind ≠ .ifWord ∧ t.kind ≠ .whileWord ∧ t.kind ≠ .breakWord ∧
      t.kind ≠ .continueWord := by
    obtain ht | ht | ht := ht <;> rw [ht] <;> decide
  obtain ⟨hif, hwhile, hbreak, hcontinue⟩ := hfirst
  rw [List.cons_append, read_statement_expression hif hwhile hbreak hcontinue
      (fun _ => hnext .arrow (.inl rfl)) (fun _ => hnext .colon (.inr rfl)),
    ← List.cons_append, read_expression, read_expr_of_ends h (ends_cons hs (by decide) rest),
    ok_bind, read_expect_of_kind hs]
  rfl

/-- A keyword that jumps is left to the step that reads its label. -/
theorem read_statement_of_jump? {k : Token} {j : Jump} (hk : jump? k.kind = some j)
    (ts : List Token) : read (statement (k :: ts)) = read (jump j k.position ts) := by
  unfold jump? at hk
  split at hk
  · next h =>
    cases hk
    exact read_statement_break h
  · next h =>
    cases hk
    exact read_statement_continue h
  · cases hk

/-- A block ends a condition before it. -/
theorem IsBlock.ends {ts : List Token} {b : List Stmt} (h : IsBlock ts b) (rest : List Token) :
    Ends (ts ++ rest) := by
  cases h with
  | mk ho => exact ends_cons ho (by decide) _

mutual

theorem read_block_of_isBlock : {ts : List Token} → {b : List Stmt} → IsBlock ts b →
    (rest : List Token) → read (block (ts ++ rest)) = .ok (b, rest)
  | _, _, .mk ho h hc, rest => by
    rw [List.cons_append, List.append_assoc, List.singleton_append, read_block,
      read_expect_of_kind ho, ok_bind, read_statements_of_isStatements h hc rest]

theorem read_statements_of_isStatements : {ts : List Token} → {ss : List Stmt} →
    IsStatements ts ss → {c : Token} → c.kind = .closeBrace → (rest : List Token) →
    read (statements (ts ++ c :: rest)) = .ok (ss, rest)
  | _, _, .nil, c, hc, rest => by
    rw [List.nil_append, read_statements_end hc]
  | _, _, @IsStatements.cons ts us s ss h hs, c, hc, rest => by
    obtain ⟨t, vs, rfl, ht, hending, -⟩ := h.starts
    have hnext : nextIs .elseWord (us ++ c :: rest) = false := by
      cases hs with
      | nil =>
        rw [List.nil_append, nextIs_cons, hc]
        rfl
      | cons h' _ =>
        obtain ⟨t', vs', rfl, -, -, ht'⟩ := h'.starts
        exact nextIs_append _ ⟨t', _, rfl, ht'⟩
    have hread := read_statement_of_isStatement h (us ++ c :: rest) hnext
    rw [List.cons_append] at hread
    rw [List.append_assoc, List.cons_append, read_statements_more ht hending, hread, ok_bind,
      read_statements_of_isStatements hs hc rest]
    rfl

theorem read_statement_of_isStatement : {ts : List Token} → {s : Stmt} → IsStatement ts s →
    (rest : List Token) → nextIs .elseWord rest = false →
    read (statement (ts ++ rest)) = .ok (s, rest)
  | _, _, .assign hx ha he hs, rest, _ => by
    rw [List.cons_append, List.cons_append, List.append_assoc, List.singleton_append,
      read_statement_assign hx ha, read_expr_of_ends he (ends_cons hs (by decide) rest), ok_bind,
      read_expect_of_kind hs]
    rfl
  | _, _, .ifThen hi hc ht, rest, hnext => by
    rw [List.cons_append, List.append_assoc, read_statement_if hi, read_branch,
      read_expr_of_ends hc (IsBlock.ends ht rest), ok_bind, read_block_of_isBlock ht, ok_bind,
      if_neg (by rw [hnext]; decide)]
    rfl
  | _, _, @IsStatement.ifElse i l cs ts es c t e hi hc ht hl he, rest, _ => by
    rw [List.cons_append, List.append_assoc, List.append_assoc, List.cons_append,
      read_statement_if hi, read_branch, read_expr_of_ends hc (IsBlock.ends ht _), ok_bind,
      read_block_of_isBlock ht, ok_bind, nextIs_cons, hl, if_pos (by decide), List.tail_cons,
      read_block_of_isBlock he rest]
    rfl
  | _, _, .loop hw hc hb, rest, _ => by
    rw [List.cons_append, List.append_assoc, read_statement_while hw, read_loop,
      read_expr_of_ends hc (IsBlock.ends hb rest), ok_bind, read_block_of_isBlock hb]
    rfl
  | _, _, .labelled hx hk hw hc hb, rest, _ => by
    rw [List.cons_append, List.cons_append, List.cons_append, List.append_assoc,
      read_statement_label hx hk, nextIs_cons, hw, if_pos (by decide), List.tail_cons, read_loop,
      read_expr_of_ends hc (IsBlock.ends hb rest), ok_bind, read_block_of_isBlock hb]
    rfl
  | _, _, @IsStatement.jump k s j hk hs, rest, _ => by
    have hlabel : nextIs .name (s :: rest) = false := by
      rw [nextIs_cons, hs]
      rfl
    rw [List.cons_append, List.singleton_append, read_statement_of_jump? hk,
      read_jump j k.position hlabel, read_expect_of_kind hs]
    rfl
  | _, _, @IsStatement.jumpTo k x s j hk hx hs, rest, _ => by
    rw [List.cons_append, List.cons_append, List.singleton_append, read_statement_of_jump? hk,
      read_jump_label j k.position hx, read_expect_of_kind hs]
    rfl
  | _, _, .expr he hs, rest, _ => by
    rw [List.append_assoc, List.singleton_append, read_statement_of_isExpr he hs rest]

end

/-! ## Items -/

theorem read_moreParams_of_isNames {ts : List Token} {xs : List String} (h : IsNames ts xs)
    {c : Token} (hc : c.kind = .closeParen) (rest : List Token) :
    read (moreParams (ts ++ c :: rest)) = .ok (xs, rest) := by
  induction h with
  | one hx =>
    rw [List.singleton_append, read_moreParams, read_expect_of_kind hx, ok_bind, nextIs_cons, hc,
      if_neg (by decide), read_expect_of_kind hc]
    rfl
  | more hx hk _ ih =>
    rw [List.cons_append, List.cons_append, read_moreParams, read_expect_of_kind hx, ok_bind,
      nextIs_cons, hk, if_pos (by decide), List.tail_cons, ih]
    rfl

theorem read_params_of_isParams {ts : List Token} {xs : List String} (h : IsParams ts xs)
    {c : Token} (hc : c.kind = .closeParen) (rest : List Token) :
    read (params (ts ++ c :: rest)) = .ok (xs, rest) := by
  cases h with
  | none => rw [List.nil_append, read_params_none hc]
  | some h =>
    have hnext : nextIs .closeParen (ts ++ c :: rest) = false := by
      cases h with
      | one hx | more hx => exact nextIs_append _ ⟨_, _, rfl, by rw [hx]; decide⟩
    rw [read_params_some hnext, read_moreParams_of_isNames h hc rest]

theorem read_body_of_isBody {ts : List Token} {b : Option (List Stmt)} (h : IsBody ts b)
    (rest : List Token) : read (body (ts ++ rest)) = .ok (b, rest) := by
  cases h with
  | none hs => rw [List.singleton_append, read_body_none hs]
  | some h =>
    have hread := read_block_of_isBlock h rest
    cases h with
    | mk ho =>
      rw [List.cons_append] at hread ⊢
      rw [read_body_some ho, hread]
      rfl

theorem read_item_of_isItem {ts : List Token} {i : Item} (h : IsItem ts i) (rest : List Token) :
    read (item (ts ++ rest)) = .ok (i, rest) := by
  cases h with
  | mk hf hx ho hp hc hb =>
    rw [List.cons_append, List.cons_append, List.cons_append, List.append_assoc, List.cons_append,
      read_item, read_expect_of_kind hf, ok_bind, read_expect_of_kind hx, ok_bind,
      read_expect_of_kind ho, ok_bind, read_params_of_isParams hp hc, ok_bind,
      read_body_of_isBody hb rest]
    rfl

theorem items_of_isItems {ts : List Token} {is : List Item} (h : IsItems ts is)
    {rest : List Token} (hrest : ∀ t ∈ rest.head?, t.kind = .ending) :
    items (ts ++ rest) = .ok is := by
  induction h with
  | nil =>
    cases rest with
    | nil => exact items_nil
    | cons t rest => exact items_ending (hrest t rfl)
  | @cons ts us i is h _ ih =>
    have hread := read_item_of_isItem h (us ++ rest)
    cases h with
    | mk hf =>
      rw [List.append_assoc, List.cons_append]
      rw [List.cons_append] at hread
      rw [items_more (by rw [hf]; decide), hread, ok_bind, ih]
      rfl

end Parser

end Looplet
