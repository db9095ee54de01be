import Looplet.Proofs.Tree.Grammar
import Looplet.Proofs.Tree.Reading

/-!
# What the descent reads is in the grammar

Every step that reads something has taken tokens that the grammar allows, and gives their tree. The
loops of the descent extend a chain of operators that has been read so far.
-/

namespace Looplet.Parser

open Looplet.Tree (Expr Stmt Item)
open Grammar

/-! ## Expressions -/

mutual

theorem expr_sound (ts : List Token) {rest : List Token} {e : Expr}
    (h : read (expr ts) = .ok (e, rest)) :
    ∃ us, ts = us ++ rest ∧ IsExpr us e := by
  rw [read_expr, bind_eq_ok] at h
  obtain ⟨⟨l, vs⟩, hl, h⟩ := h
  have hlt := length_lt_of_read hl
  obtain ⟨us, hts, hsum⟩ := sum_sound ts hl
  obtain ⟨ws, hvs, he⟩ := comparisons_sound vs (.sum hsum) h
  exact ⟨us ++ ws, by rw [hts, hvs, List.append_assoc], he⟩
termination_by 7 * ts.length + 4

theorem comparisons_sound (ts : List Token) {rest ls : List Token} {lhs e : Expr}
    (hl : IsExpr ls lhs) (h : read (comparisons lhs ts) = .ok (e, rest)) :
    ∃ us, ts = us ++ rest ∧ IsExpr (ls ++ us) e := by
  match ts with
  | [] =>
    rw [read_comparisons_nil] at h
    cases h
    exact ⟨[], rfl, by rwa [List.append_nil]⟩
  | t :: ts =>
    cases hop : comparison? t.kind with
    | none =>
      rw [read_comparisons_stop lhs hop] at h
      cases h
      exact ⟨[], rfl, by rwa [List.append_nil]⟩
    | some op =>
      rw [read_comparisons_more lhs hop, bind_eq_ok] at h
      obtain ⟨⟨r, vs⟩, hr, h⟩ := h
      have hlt := length_lt_of_read hr
      obtain ⟨us, hts, hsum⟩ := sum_sound ts hr
      obtain ⟨ws, hvs, he⟩ := comparisons_sound vs (.comparison hl hop hsum) h
      refine ⟨t :: (us ++ ws), by rw [hts, hvs, List.cons_append, List.append_assoc], ?_⟩
      rwa [List.append_assoc, List.cons_append] at he
termination_by 7 * ts.length + 3

theorem sum_sound (ts : List Token) {rest : List Token} {e : Expr}
    (h : read (sum ts) = .ok (e, rest)) :
    ∃ us, ts = us ++ rest ∧ IsSum us e := by
  rw [read_sum, bind_eq_ok] at h
  obtain ⟨⟨l, vs⟩, hl, h⟩ := h
  have hlt := length_lt_of_read hl
  obtain ⟨us, hts, hprimary⟩ := primary_sound ts hl
  obtain ⟨ws, hvs, he⟩ := additions_sound vs (.primary hprimary) h
  exact ⟨us ++ ws, by rw [hts, hvs, List.append_assoc], he⟩
termination_by 7 * ts.length + 2

theorem additions_sound (ts : List Token) {rest ls : List Token} {lhs e : Expr}
    (hl : IsSum ls lhs) (h : read (additions lhs ts) = .ok (e, rest)) :
    ∃ us, ts = us ++ rest ∧ IsSum (ls ++ us) e := by
  cases hp : nextIs .plus ts with
  | false =>
    rw [read_additions_stop lhs hp] at h
    cases h
    exact ⟨[], rfl, by rwa [List.append_nil]⟩
  | true =>
    obtain ⟨t, ts', rfl, ht⟩ := nextIs_iff.mp hp
    rw [read_additions_more lhs ht, bind_eq_ok] at h
    obtain ⟨⟨r, vs⟩, hr, h⟩ := h
    have hlt := length_lt_of_read hr
    obtain ⟨us, hts, hprimary⟩ := primary_sound ts' hr
    obtain ⟨ws, hvs, he⟩ := additions_sound vs (.add hl ht hprimary) h
    refine ⟨t :: (us ++ ws), by rw [hts, hvs, List.cons_append, List.append_assoc], ?_⟩
    rwa [List.append_assoc, List.cons_append] at he
termination_by 7 * ts.length + 1

theorem primary_sound (ts : List Token) {rest : List Token} {e : Expr}
    (h : read (primary ts) = .ok (e, rest)) :
    ∃ us, ts = us ++ rest ∧ IsPrimary us e := by
  match ts with
  | [] =>
    rw [read_primary_nil] at h
    cases h
  | t :: ts =>
    by_cases hnumber : t.kind = .number
    · rw [read_primary_number hnumber] at h
      cases hv : t.value? with
      | none =>
        rw [hv] at h
        cases h
      | some v =>
        rw [hv] at h
        cases h
        exact ⟨[t], rfl, .number hnumber hv⟩
    · by_cases hname : t.kind = .name
      · cases hnext : nextIs .openParen ts with
        | false =>
          rw [read_primary_var hname hnext] at h
          cases h
          exact ⟨[t], rfl, .var hname⟩
        | true =>
          obtain ⟨o, ts', rfl, ho⟩ := nextIs_iff.mp hnext
          rw [read_primary_call hname ho, bind_eq_ok] at h
          obtain ⟨⟨es, vs⟩, ha, h⟩ := h
          cases h
          obtain ⟨us, c, hts, hc, hargs⟩ := arguments_sound ts' ha
          exact ⟨t :: o :: (us ++ [c]), by rw [hts]; simp, .call hname ho hargs hc⟩
      · by_cases hparen : t.kind = .openParen
        · simp only [read_primary_paren hparen, bind_eq_ok] at h
          obtain ⟨⟨e', vs⟩, he, ⟨c, ws⟩, hc, h⟩ := h
          cases h
          obtain ⟨us, hts, hexpr⟩ := expr_sound ts he
          obtain ⟨hvs, hck⟩ := read_expect_eq_ok.mp hc
          exact ⟨t :: (us ++ [c]), by rw [hts, show vs = _ from hvs]; simp, .paren hparen hexpr hck⟩
        · rw [read_primary_other hnumber hname hparen] at h
          cases h
termination_by 7 * ts.length

theorem arguments_sound (ts : List Token) {rest : List Token} {es : List Expr}
    (h : read (arguments ts) = .ok (es, rest)) :
    ∃ us c, ts = us ++ c :: rest ∧ c.kind = .closeParen ∧ IsArguments us es := by
  cases hnext : nextIs .closeParen ts with
  | true =>
    obtain ⟨c, ts', rfl, hc⟩ := nextIs_iff.mp hnext
    rw [read_arguments_none hc] at h
    cases h
    exact ⟨[], c, rfl, hc, .none⟩
  | false =>
    rw [read_arguments_some hnext] at h
    obtain ⟨us, c, hts, hck, hargs⟩ := moreArguments_sound ts h
    exact ⟨us, c, hts, hck, .some hargs⟩
termination_by 7 * ts.length + 6

theorem moreArguments_sound (ts : List Token) {rest : List Token} {es : List Expr}
    (h : read (moreArguments ts) = .ok (es, rest)) :
    ∃ us c, ts = us ++ c :: rest ∧ c.kind = .closeParen ∧ IsMoreArguments us es := by
  rw [read_moreArguments, bind_eq_ok] at h
  obtain ⟨⟨e, vs⟩, he, h⟩ := h
  have hlt := length_lt_of_read he
  obtain ⟨us, hts, hexpr⟩ := expr_sound ts he
  cases hcomma : nextIs .comma vs with
  | true =>
    obtain ⟨k, vs', rfl, hk⟩ := nextIs_iff.mp hcomma
    have hlt' : vs'.length < ts.length := Nat.lt_trans (Nat.lt_succ_self _) hlt
    simp only [hcomma, if_true, List.tail_cons, bind_eq_ok] at h
    obtain ⟨⟨es', ws⟩, ha, h⟩ := h
    cases h
    obtain ⟨us', c, hvs, hck, hargs⟩ := moreArguments_sound vs' ha
    exact ⟨us ++ k :: us', c, by rw [hts, hvs]; simp, hck, .more hexpr hk hargs⟩
  | false =>
    simp only [hcomma, Bool.false_eq_true, if_false, bind_eq_ok] at h
    obtain ⟨⟨c, ws⟩, hc, h⟩ := h
    cases h
    obtain ⟨hvs, hck⟩ := read_expect_eq_ok.mp hc
    exact ⟨us, c, by rw [hts, show vs = _ from hvs], hck, .one hexpr⟩
termination_by 7 * ts.length + 5
decreasing_by
  all_goals simp_wf
  all_goals omega

end

/-! ## Statements -/

theorem expression_sound (ts : List Token) {rest : List Token} {s : Stmt}
    (h : read (expression ts) = .ok (s, rest)) : ∃ us, ts = us ++ rest ∧ IsStatement us s := by
  simp only [read_expression, bind_eq_ok] at h
  obtain ⟨⟨e, vs⟩, he, ⟨c, ws⟩, hc, h⟩ := h
  cases h
  obtain ⟨us, hts, hexpr⟩ := expr_sound ts he
  obtain ⟨hvs, hck⟩ := read_expect_eq_ok.mp hc
  exact ⟨us ++ [c], by rw [hts, show vs = _ from hvs]; simp, .expr hexpr hck⟩

theorem jump_sound {k : Token} {j : Jump} (hk : jump? k.kind = some j) (ts : List Token)
    {rest : List Token} {s : Stmt} (h : read (jump j k.position ts) = .ok (s, rest)) :
    ∃ us, k :: ts = us ++ rest ∧ IsStatement us s := by
  cases hnext : nextIs .name ts with
  | true =>
    obtain ⟨x, ts', rfl, hx⟩ := nextIs_iff.mp hnext
    rw [read_jump_label j k.position hx, bind_eq_ok] at h
    obtain ⟨⟨c, ws⟩, hc, h⟩ := h
    cases h
    obtain ⟨hts, hck⟩ := read_expect_eq_ok.mp hc
    exact ⟨[k, x, c], by rw [show ts' = _ from hts]; rfl, .jumpTo hk hx hck⟩
  | false =>
    rw [read_jump j k.position hnext, bind_eq_ok] at h
    obtain ⟨⟨c, ws⟩, hc, h⟩ := h
    cases h
    obtain ⟨hts, hck⟩ := read_expect_eq_ok.mp hc
    exact ⟨[k, c], by rw [show ts = _ from hts]; rfl, .jump hk hck⟩

theorem assign_sound {x a : Token} (hx : x.kind = .name) (ha : a.kind = .arrow) (ts : List Token)
    {rest : List Token} {s : Stmt} (h : read (statement (x :: a :: ts)) = .ok (s, rest)) :
    ∃ us, x :: a :: ts = us ++ rest ∧ IsStatement us s := by
  simp only [read_statement_assign hx ha, bind_eq_ok] at h
  obtain ⟨⟨e, vs⟩, he, ⟨c, ws⟩, hc, h⟩ := h
  cases h
  obtain ⟨us, hts, hexpr⟩ := expr_sound ts he
  obtain ⟨hvs, hck⟩ := read_expect_eq_ok.mp hc
  exact ⟨x :: a :: (us ++ [c]), by rw [hts, show vs = _ from hvs]; simp, .assign hx ha hexpr hck⟩

mutual

theorem block_sound (ts : List Token) {rest : List Token} {b : List Stmt}
    (h : read (block ts) = .ok (b, rest)) : ∃ us, ts = us ++ rest ∧ IsBlock us b := by
  rw [read_block, bind_eq_ok] at h
  obtain ⟨⟨o, vs⟩, ho, h⟩ := h
  have hlt := length_lt_of_read ho
  obtain ⟨hts, hok⟩ := read_expect_eq_ok.mp ho
  obtain ⟨us, c, hvs, hck, hss⟩ := statements_sound vs h
  exact ⟨o :: (us ++ [c]), by rw [show ts = _ from hts, hvs]; simp, .mk hok hss hck⟩
termination_by 7 * ts.length + 1

theorem statements_sound (ts : List Token) {rest : List Token} {ss : List Stmt}
    (h : read (statements ts) = .ok (ss, rest)) :
    ∃ us c, ts = us ++ c :: rest ∧ c.kind = .closeBrace ∧ IsStatements us ss := by
  match ts with
  | [] =>
    rw [read_statements_nil] at h
    cases h
  | t :: ts =>
    by_cases hc : t.kind = .closeBrace
    · rw [read_statements_end hc] at h
      cases h
      exact ⟨[], t, rfl, hc, .nil⟩
    by_cases hending : t.kind = .ending
    · rw [read_statements_ending hending] at h
      cases h
    · simp only [read_statements_more hc hending, bind_eq_ok] at h
      obtain ⟨⟨s, vs⟩, hs, ⟨ss', ws⟩, hss, h⟩ := h
      cases h
      have hlt : vs.length < ts.length + 1 := length_lt_of_read hs
      obtain ⟨us, hts, hstmt⟩ := statement_sound (t :: ts) hs
      obtain ⟨us', c, hvs, hck, hstmts⟩ := statements_sound vs hss
      exact ⟨us ++ us', c, by rw [hts, hvs, List.append_assoc], hck, .cons hstmt hstmts⟩
termination_by 7 * ts.length + 3

theorem statement_sound (ts : List Token) {rest : List Token} {s : Stmt}
    (h : read (statement ts) = .ok (s, rest)) : ∃ us, ts = us ++ rest ∧ IsStatement us s := by
  match ts with
  | [] =>
    rw [read_statement_nil] at h
    cases h
  | t :: ts =>
    by_cases hif : t.kind = .ifWord
    · rw [read_statement_if hif] at h
      obtain ⟨us, hts, hs⟩ := branch_sound hif ts h
      exact ⟨t :: us, by rw [hts, List.cons_append], hs⟩
    by_cases hwhile : t.kind = .whileWord
    · rw [read_statement_while hwhile] at h
      obtain ⟨cs, bs, c, b, hts, rfl, hc, hb⟩ := loop_sound _ _ ts h
      exact ⟨t :: (cs ++ bs), by rw [hts]; simp, .loop hwhile hc hb⟩
    by_cases hbreak : t.kind = .breakWord
    · rw [read_statement_break hbreak] at h
      exact jump_sound (by rw [hbreak]; rfl) ts h
    by_cases hcontinue : t.kind = .continueWord
    · rw [read_statement_continue hcontinue] at h
      exact jump_sound (by rw [hcontinue]; rfl) ts h
    by_cases harrow : t.kind = .name ∧ nextIs .arrow ts = true
    · obtain ⟨a, ts', rfl, ha⟩ := nextIs_iff.mp harrow.2
      exact assign_sound harrow.1 ha ts' h
    by_cases hcolon : t.kind = .name ∧ nextIs .colon ts = true
    · obtain ⟨k, ts', rfl, hk⟩ := nextIs_iff.mp hcolon.2
      rw [read_statement_label hcolon.1 hk] at h
      cases hw : nextIs .whileWord ts' with
      | false =>
        simp only [hw] at h
        cases h
      | true =>
        obtain ⟨w, us, rfl, hwk⟩ := nextIs_iff.mp hw
        rw [if_pos hw, List.tail_cons] at h
        obtain ⟨cs, bs, c, b, hts, rfl, hc, hb⟩ := loop_sound _ _ us h
        exact ⟨t :: k :: w :: (cs ++ bs), by rw [hts]; simp, .labelled hcolon.1 hk hwk hc hb⟩
    · rw [read_statement_expression hif hwhile hbreak hcontinue
        (fun hname => Bool.eq_false_iff.mpr fun ha => harrow ⟨hname, ha⟩)
        (fun hname => Bool.eq_false_iff.mpr fun hk => hcolon ⟨hname, hk⟩)] at h
      exact expression_sound (t :: ts) h
termination_by 7 * ts.length + 2

theorem branch_sound {i : Token} (hi : i.kind = .ifWord) (ts : List Token) {rest : List Token}
    {s : Stmt} (h : read (branch ts) = .ok (s, rest)) :
    ∃ us, ts = us ++ rest ∧ IsStatement (i :: us) s := by
  simp only [read_branch, bind_eq_ok] at h
  obtain ⟨⟨c, vs⟩, hc, ⟨t, ws⟩, ht, h⟩ := h
  have hlt := length_lt_of_read hc
  have hlt' := length_lt_of_read ht
  obtain ⟨cs, hts, hcond⟩ := expr_sound ts hc
  obtain ⟨bs, hvs, hthen⟩ := block_sound vs ht
  cases helse : nextIs .elseWord ws with
  | false =>
    simp only [helse, Bool.false_eq_true, if_false, pure_eq_ok] at h
    cases h
    exact ⟨cs ++ bs, by rw [hts, show vs = _ from hvs, List.append_assoc], .ifThen hi hcond hthen⟩
  | true =>
    obtain ⟨l, ws', rfl, hl⟩ := nextIs_iff.mp helse
    have hlt'' : ws'.length < vs.length := Nat.lt_trans (Nat.lt_succ_self _) hlt'
    simp only [helse, if_true, List.tail_cons, bind_eq_ok] at h
    obtain ⟨⟨e, us⟩, he, h⟩ := h
    cases h
    obtain ⟨es, hws, hother⟩ := block_sound ws' he
    exact ⟨cs ++ (bs ++ l :: es), by rw [hts, hvs, hws]; simp, .ifElse hi hcond hthen hl hother⟩
termination_by 7 * ts.length + 2

theorem loop_sound (label? : Option String) (p : Position) (ts : List Token) {rest : List Token}
    {s : Stmt} (h : read (loop label? p ts) = .ok (s, rest)) :
    ∃ cs bs c b, ts = cs ++ bs ++ rest ∧ s = .loop label? c b p ∧ IsExpr cs c ∧ IsBlock bs b := by
  simp only [read_loop, bind_eq_ok] at h
  obtain ⟨⟨c, vs⟩, hc, ⟨b, ws⟩, hb, h⟩ := h
  cases h
  have hlt := length_lt_of_read hc
  obtain ⟨cs, hts, hcond⟩ := expr_sound ts hc
  obtain ⟨bs, hvs, hbody⟩ := block_sound vs hb
  exact ⟨cs, bs, c, b, by rw [hts, hvs, List.append_assoc], rfl, hcond, hbody⟩
termination_by 7 * ts.length + 2
decreasing_by
  all_goals simp_wf
  all_goals omega

end

/-! ## Items -/

theorem moreParams_sound (ts : List Token) {rest : List Token} {xs : List String}
    (h : read (moreParams ts) = .ok (xs, rest)) :
    ∃ us c, ts = us ++ c :: rest ∧ c.kind = .closeParen ∧ IsNames us xs := by
  rw [read_moreParams, bind_eq_ok] at h
  obtain ⟨⟨x, vs⟩, hx, h⟩ := h
  obtain ⟨hts, hxk⟩ := read_expect_eq_ok.mp hx
  cases hcomma : nextIs .comma vs with
  | true =>
    obtain ⟨k, vs', rfl, hk⟩ := nextIs_iff.mp hcomma
    simp only [hcomma, if_true, List.tail_cons, bind_eq_ok] at h
    obtain ⟨⟨xs', ws⟩, ha, h⟩ := h
    cases h
    have hlt : vs'.length < ts.length := by
      simp only [hts, List.length_cons]
      omega
    obtain ⟨us, c, hvs, hck, hnames⟩ := moreParams_sound vs' ha
    exact ⟨x :: k :: us, c, by rw [hts, hvs]; rfl, hck, .more hxk hk hnames⟩
  | false =>
    simp only [hcomma, Bool.false_eq_true, if_false, bind_eq_ok] at h
    obtain ⟨⟨c, ws⟩, hc, h⟩ := h
    cases h
    obtain ⟨hvs, hck⟩ := read_expect_eq_ok.mp hc
    exact ⟨[x], c, by rw [hts, show vs = _ from hvs]; rfl, hck, .one hxk⟩
termination_by ts.length

theorem params_sound (ts : List Token) {rest : List Token} {xs : List String}
    (h : read (params ts) = .ok (xs, rest)) :
    ∃ us c, ts = us ++ c :: rest ∧ c.kind = .closeParen ∧ IsParams us xs := by
  cases hnext : nextIs .closeParen ts with
  | true =>
    obtain ⟨c, ts', rfl, hc⟩ := nextIs_iff.mp hnext
    rw [read_params_none hc] at h
    cases h
    exact ⟨[], c, rfl, hc, .none⟩
  | false =>
    rw [read_params_some hnext] at h
    obtain ⟨us, c, hts, hck, hnames⟩ := moreParams_sound ts h
    exact ⟨us, c, hts, hck, .some hnames⟩

theorem body_sound (ts : List Token) {rest : List Token} {b : Option (List Stmt)}
    (h : read (body ts) = .ok (b, rest)) : ∃ us, ts = us ++ rest ∧ IsBody us b := by
  cases hnext : nextIs .semicolon ts with
  | true =>
    obtain ⟨s, ts', rfl, hs⟩ := nextIs_iff.mp hnext
    rw [read_body_none hs] at h
    cases h
    exact ⟨[s], rfl, .none hs⟩
  | false =>
    cases ho : nextIs .openBrace ts with
    | true =>
      obtain ⟨o, ts', rfl, hok⟩ := nextIs_iff.mp ho
      rw [read_body_some hok, bind_eq_ok] at h
      obtain ⟨⟨ss, ws⟩, hss, h⟩ := h
      cases h
      obtain ⟨us, hts, hblock⟩ := block_sound (o :: ts') hss
      exact ⟨us, hts, .some hblock⟩
    | false =>
      rw [read_body_other hnext ho] at h
      cases h

theorem item_sound (ts : List Token) {rest : List Token} {i : Item}
    (h : read (item ts) = .ok (i, rest)) : ∃ us, ts = us ++ rest ∧ IsItem us i := by
  simp only [read_item, bind_eq_ok] at h
  obtain ⟨⟨f, ts₁⟩, hf, ⟨x, ts₂⟩, hx, ⟨o, ts₃⟩, ho, ⟨xs, ts₄⟩, hps, ⟨b, ts₅⟩, hb, h⟩ := h
  cases h
  obtain ⟨hts, hfk⟩ := read_expect_eq_ok.mp hf
  obtain ⟨hts₁, hxk⟩ := read_expect_eq_ok.mp hx
  obtain ⟨hts₂, hok⟩ := read_expect_eq_ok.mp ho
  obtain ⟨ps, c, hts₃, hck, hparams⟩ := params_sound ts₃ hps
  obtain ⟨bs, hts₄, hbody⟩ := body_sound ts₄ hb
  refine ⟨f :: x :: o :: (ps ++ c :: bs), ?_, .mk hfk hxk hok hparams hck hbody⟩
  rw [show ts = _ from hts, show ts₁ = _ from hts₁, show ts₂ = _ from hts₂, hts₃, hts₄]
  simp

/-- The items go up to the end of the tokens or to an ending one. -/
theorem items_sound (ts : List Token) {is : List Item} (h : items ts = .ok is) :
    ∃ us rest, ts = us ++ rest ∧ IsItems us is ∧ ∀ t ∈ rest.head?, t.kind = .ending := by
  match ts with
  | [] =>
    rw [items_nil] at h
    cases h
    exact ⟨[], [], rfl, .nil, nofun⟩
  | t :: ts =>
    by_cases hending : t.kind = .ending
    · rw [items_ending hending] at h
      cases h
      refine ⟨[], t :: ts, rfl, .nil, ?_⟩
      rintro _ ⟨⟩
      exact hending
    · simp only [items_more hending, bind_eq_ok] at h
      obtain ⟨⟨i, vs⟩, hi, is', his, h⟩ := h
      cases h
      have hlt : vs.length < ts.length + 1 := length_lt_of_read hi
      obtain ⟨us, hts, hitem⟩ := item_sound (t :: ts) hi
      obtain ⟨us', rest, hvs, hitems, hrest⟩ := items_sound vs his
      exact ⟨us ++ us', rest, by rw [hts, hvs, List.append_assoc], .cons hitem hitems, hrest⟩
termination_by ts.length

end Looplet.Parser
