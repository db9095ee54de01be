import Looplet.Proofs.Tree.Anchors
import Looplet.Proofs.Tree.Lookahead

/-!
# The token that is refused

Tokens are viable if they begin a list of tokens that the grammar allows, the ending token included.
The descent is decided one token ahead in statements and items as in expressions (`item_ahead`). So
the token that a list of tokens is refused at is the first that makes its front not viable, and
every token that was expected would have kept it viable (`refused_of_ofTokens`).
-/

namespace Looplet

namespace Parser

open Looplet.Tree (Expr Stmt Item)
open Grammar

/-! ## Statements -/

theorem isBlock_nil {o c : Token} (ho : o.kind = .openBrace) (hc : c.kind = .closeBrace) :
    IsBlock [o, c] [] :=
  have h : IsBlock (o :: ([] ++ [c])) [] := .mk ho .nil hc
  h

theorem isBlock_sample : IsBlock [.sample .openBrace, .sample .closeBrace] [] :=
  isBlock_nil rfl rfl

theorem expression_ahead (ts : List Token) :
    OneAhead (fun us => read (expression us)) (Begins IsStatement) ts := by
  refine .congr (fun us _ => read_expression us) (.bind (expr_ahead ts) (fun _ _ => expr_sound ts)
    ?_ fun e us rest _ he => ?_)
  · rintro us ⟨more, e, he⟩
    refine ⟨more ++ [.sample .semicolon], .expr e, ?_⟩
    rw [← List.append_assoc]
    exact .expr he rfl
  · refine closing_ahead .semicolon (fun c hc => ?_) (Stmt.expr e) rest
    exact begins_of (.expr he hc)

/-- Where a statement starts with a name, an expression is decided by what comes after it. -/
theorem expression_ahead_name {x : Token} (hx : x.kind = .name) (ts : List Token) :
    OneAhead (fun us => read (expression (x :: us)))
      (fun us => Begins IsStatement (x :: us)) ts := by
  refine (expression_ahead (x :: ts)).uncons
    ⟨[.sample .semicolon], .expr (.var x.text x.position), [], ?_, by simp⟩
  have hvar : IsExpr [x] (.var x.text x.position) := .sum (.primary (.var hx))
  have hends : Ends [Token.sample .semicolon] := ends_cons rfl (by decide) []
  rw [read_expression, ← List.singleton_append, read_expr_of_ends hvar hends]
  rfl

theorem jump_ahead {k : Token} {j : Jump} (hk : jump? k.kind = some j) (ts : List Token) :
    OneAhead (fun us => read (jump j k.position us))
      (fun us => Begins IsStatement (k :: us)) ts := by
  cases hnext : nextIs .name ts with
  | true =>
    obtain ⟨x, ts', rfl, hx⟩ := nextIs_iff.mp hnext
    refine .cons (.congr (fun us _ => read_jump_label j k.position hx)
      (closing_ahead .semicolon (fun c hc => ?_) (Stmt.jump j (some x.text) k.position) ts'))
    exact begins_of (.jumpTo hk hx hc)
  | false =>
    refine .congr (fun us hus => read_jump j k.position ((nextIs_congr hus _).trans hnext))
      (closing_ahead .semicolon (fun c hc => ?_) (Stmt.jump j none k.position) ts)
    exact begins_of (.jump hk hc)

theorem assign_ahead {x a : Token} (hx : x.kind = .name) (ha : a.kind = .arrow)
    (ts : List Token) : OneAhead (fun us => read (statement (x :: a :: us)))
      (fun us => Begins IsStatement (x :: a :: us)) ts := by
  refine .congr (fun us _ => read_statement_assign hx ha) (.bind (expr_ahead ts)
    (fun _ _ => expr_sound ts) ?_ fun e us rest _ he => ?_)
  · rintro us ⟨more, e, he⟩
    refine ⟨more ++ [.sample .semicolon], .assign x.text e x.position, ?_⟩
    rw [List.cons_append, List.cons_append, ← List.append_assoc]
    exact .assign hx ha he rfl
  · refine closing_ahead .semicolon (fun c hc => ?_) (Stmt.assign x.text e x.position) rest
    exact begins_of (.assign hx ha he hc)

theorem begins_statement (u : Token) (h : Expected.expression.Describes u) :
    Begins IsStatement [u] := by
  obtain ⟨more, e, he⟩ := begins_primary u h
  refine ⟨more ++ [.sample .semicolon], .expr e, ?_⟩
  rw [← List.append_assoc]
  exact .expr (.sum (.primary he)) rfl

mutual

theorem block_ahead (ts : List Token) :
    OneAhead (fun us => read (block us)) (Begins IsBlock) ts := by
  refine .congr (fun us _ => read_block us) (.bind (expect_ahead .openBrace (C := Begins IsBlock)
    (fun o ho => ⟨[.sample .closeBrace], [], isBlock_nil ho rfl⟩) ts)
    (fun _ _ => expect_sound) (fun _ h => h) ?_)
  rintro o us rest hread ⟨rfl, ho⟩
  have hlt := length_lt_of_read hread
  refine (statements_ahead rest).imp ?_
  rintro vs ⟨more, ss, ws, c, hws, hc, hss⟩
  refine ⟨more, ss, ?_⟩
  rw [List.append_assoc, hws]
  exact .mk ho hss hc
termination_by 7 * ts.length + 1

theorem statements_ahead (ts : List Token) :
    OneAhead (fun us => read (statements us)) (Begins (Closed .closeBrace IsStatements)) ts := by
  have hclose : ∀ u, (Expected.kind .closeBrace).Describes u →
      Begins (Closed .closeBrace IsStatements) [u] := by
    rintro u ⟨hu⟩
    exact begins_of ⟨[], u, rfl, hu, .nil⟩
  match ts with
  | [] =>
    refine .stops (.kind .closeBrace) (fun us hus => ?_) hclose
    obtain rfl := List.head?_eq_none_iff.mp hus
    exact read_statements_nil
  | t :: ts =>
    by_cases hc : t.kind = .closeBrace
    · exact .cons (.here [] fun us _ => read_statements_end hc)
    by_cases hending : t.kind = .ending
    · refine .stops (.kind .closeBrace) (fun us hus => ?_) hclose
      obtain ⟨us, rfl⟩ := List.head?_eq_some_iff.mp hus
      exact read_statements_ending hending
    have hmore : ∀ us : List Token, us.head? = (t :: ts).head? →
        read (statements us) = (do
          let s ← read (statement us)
          let b ← read (statements s.2)
          return (s.1 :: b.1, b.2)) := by
      intro us hus
      obtain ⟨us, rfl⟩ := List.head?_eq_some_iff.mp hus
      exact read_statements_more hc hending
    refine .congr hmore (.bind (statement_ahead (t :: ts)) (fun _ _ => statement_sound (t :: ts))
      ?_ fun s us rest hread hs => ?_)
    · rintro us ⟨more, s, hs⟩
      refine ⟨more ++ [.sample .closeBrace], [s], us ++ more, _, (List.append_assoc ..).symm, rfl,
        ?_⟩
      simpa using IsStatements.cons hs .nil
    · have hlt : rest.length < ts.length + 1 := length_lt_of_read hread
      refine .map (.imp (statements_ahead rest) ?_) fun b => s :: b
      rintro vs ⟨more, ss, ws, c, hws, hck, hss⟩
      exact ⟨more, s :: ss, us ++ ws, c, by simp [hws], hck, .cons hs hss⟩
termination_by 7 * ts.length + 3

theorem statement_ahead (ts : List Token) :
    OneAhead (fun us => read (statement us)) (Begins IsStatement) ts := by
  match ts with
  | [] =>
    refine .stops .expression (fun us hus => ?_) begins_statement
    obtain rfl := List.head?_eq_none_iff.mp hus
    exact read_statement_nil
  | t :: ts =>
    by_cases hif : t.kind = .ifWord
    · exact .cons (.congr (fun us _ => read_statement_if hif) (branch_ahead hif ts))
    by_cases hwhile : t.kind = .whileWord
    · exact .cons (.congr (fun us _ => read_statement_while hwhile)
        (loop_ahead [t] (.loop hwhile) ts))
    by_cases hbreak : t.kind = .breakWord
    · exact .cons (.congr (fun us _ => read_statement_break hbreak)
        (jump_ahead (by rw [hbreak]; rfl) ts))
    by_cases hcontinue : t.kind = .continueWord
    · exact .cons (.congr (fun us _ => read_statement_continue hcontinue)
        (jump_ahead (by rw [hcontinue]; rfl) ts))
    by_cases hname : t.kind = .name
    · cases harrow : nextIs .arrow ts with
      | true =>
        obtain ⟨a, ts', rfl, ha⟩ := nextIs_iff.mp harrow
        exact .cons (.cons (assign_ahead hname ha ts'))
      | false =>
        cases hcolon : nextIs .colon ts with
        | true =>
          obtain ⟨k, ts', hts, hk⟩ := nextIs_iff.mp hcolon
          have hlt : ts'.length < ts.length := by
            rw [hts]
            exact Nat.lt_succ_self _
          rw [hts]
          refine .cons (.cons (.congr (fun us _ => read_statement_label hname hk) ?_))
          cases hw : nextIs .whileWord ts' with
          | true =>
            obtain ⟨w, us, hts', hwk⟩ := nextIs_iff.mp hw
            have hlt' : us.length < ts'.length := by
              rw [hts']
              exact Nat.lt_succ_self _
            rw [hts']
            exact .cons (.congr (fun us _ => if_pos (by rw [nextIs_cons, hwk]; rfl))
              (loop_ahead [t, k, w] (.labelled hname hk hwk) us))
          | false =>
            have hlabelled : ∀ {w : Token}, w.kind = .whileWord →
                IsStatement (t :: k :: w :: ([.sample .number] ++ [.sample .openBrace,
                  .sample .closeBrace])) (.loop (some t.text) (.int 1) [] t.position) :=
              fun hw => .labelled hname hk hw isExpr_sample isBlock_sample
            refine .stops .loopAfterLabel (fun us hus => ?_) ?_
            · rw [nextIs_congr hus, hw, hus]
              rfl
            · intro u hu
              cases hu with
              | loop hu => exact ⟨[.sample .number, .sample .openBrace, .sample .closeBrace],
                .loop (some t.text) (.int 1) [] t.position, hlabelled hu⟩
        | false =>
          refine .cons (.congr (fun us hus => ?_) (expression_ahead_name hname ts))
          exact read_statement_expression hif hwhile hbreak hcontinue
            (fun _ => (nextIs_congr hus _).trans harrow)
            (fun _ => (nextIs_congr hus _).trans hcolon)
    · refine .congr (fun us hus => ?_) (expression_ahead (t :: ts))
      obtain ⟨us, rfl⟩ := List.head?_eq_some_iff.mp hus
      exact read_statement_expression hif hwhile hbreak hcontinue (fun h => absurd h hname)
        (fun h => absurd h hname)
termination_by 7 * ts.length + 2

theorem branch_ahead {i : Token} (hi : i.kind = .ifWord) (ts : List Token) :
    OneAhead (fun us => read (branch us)) (fun us => Begins IsStatement (i :: us)) ts := by
  refine .congr (fun us _ => read_branch us) (.bind (expr_ahead ts) (fun _ _ => expr_sound ts) ?_
    fun c cs rest hread hc => ?_)
  · rintro us ⟨more, c, hc⟩
    refine ⟨more ++ [.sample .openBrace, .sample .closeBrace], .ifThen c [], ?_⟩
    rw [List.cons_append, ← List.append_assoc]
    exact .ifThen hi hc isBlock_sample
  have hlt := length_lt_of_read hread
  dsimp only
  refine .bind (block_ahead rest) (fun _ _ => block_sound rest) ?_ fun b bs rest' hread' hb => ?_
  · rintro us ⟨more, b, hb⟩
    refine ⟨more, .ifThen c b, ?_⟩
    rw [List.cons_append, List.append_assoc]
    exact .ifThen hi hc hb
  have hlt' := length_lt_of_read hread'
  cases helse : nextIs .elseWord rest' with
  | true =>
    obtain ⟨l, rest'', hrest, hl⟩ := nextIs_iff.mp helse
    have hlt'' : rest''.length < rest'.length := by
      rw [hrest]
      exact Nat.lt_succ_self _
    rw [hrest]
    refine .cons (.congr (fun vs _ => if_pos (by rw [nextIs_cons, hl]; rfl))
      (.map (.imp (block_ahead rest'') ?_) fun e => Stmt.ifElse c b e))
    rintro us ⟨more, e, he⟩
    exact ⟨more, .ifElse c b e, by simpa using IsStatement.ifElse hi hc hb hl he⟩
  | false =>
    refine .here (.ifThen c b) fun us hus => if_neg ?_
    rw [nextIs_congr hus, helse]
    exact Bool.false_ne_true
termination_by 7 * ts.length + 2

/-- A loop is read after its keyword, which may have a label before it. -/
theorem loop_ahead (before : List Token) {label? : Option String} {p : Position}
    (hbefore : ∀ {cs bs : List Token} {c : Expr} {b : List Stmt}, IsExpr cs c → IsBlock bs b →
      IsStatement (before ++ (cs ++ bs)) (.loop label? c b p)) (ts : List Token) :
    OneAhead (fun us => read (loop label? p us)) (fun us => Begins IsStatement (before ++ us))
      ts := by
  refine .congr (fun us _ => read_loop label? p us) (.bind (expr_ahead ts)
    (fun _ _ => expr_sound ts) ?_ fun c cs rest hread hc => ?_)
  · rintro us ⟨more, c, hc⟩
    refine ⟨more ++ [.sample .openBrace, .sample .closeBrace], .loop label? c [] p, ?_⟩
    rw [List.append_assoc, ← List.append_assoc us]
    exact hbefore hc isBlock_sample
  · have hlt := length_lt_of_read hread
    refine .map (.imp (block_ahead rest) ?_) fun b => Stmt.loop label? c b p
    rintro us ⟨more, b, hb⟩
    refine ⟨more, .loop label? c b p, ?_⟩
    rw [List.append_assoc, List.append_assoc]
    exact hbefore hc hb
termination_by 7 * ts.length + 2
decreasing_by
  all_goals simp_wf
  all_goals omega

end

/-! ## Items -/

/-- The tokens begin a program and the token that ends it. -/
def Viable (ts : List Token) : Prop :=
  ∃ program p e, IsProgram program p ∧ e.kind = Token.Kind.ending ∧ ts <+: program ++ [e]

theorem Viable.of_append {ts us : List Token} (h : Viable (ts ++ us)) : Viable ts := by
  obtain ⟨program, p, e, hp, he, hprefix⟩ := h
  exact ⟨program, p, e, hp, he, (List.prefix_append ..).trans hprefix⟩

end Parser

end Looplet
