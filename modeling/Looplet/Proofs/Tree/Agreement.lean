import Looplet.Proofs.Tree.Moved
import Looplet.Proofs.Tree.Reading

/-!
# What reading does not look at

Two lists of tokens agree if, up to an ending token in both, one has the tokens of the other at
moved positions (`Agree`). No step of the descent looks at a position or takes an ending token. So
on lists that agree it gives the same at moved positions, and it leaves lists that agree or names
the token that it stops at (`items_alike`).
-/

namespace Looplet.Parser

open Looplet.Tree (Expr Stmt Item)

variable {α β α' β' : Type} {f : Position → Position} {ts us : List Token}

/-- Up to an ending token the second list is the first one at moved positions. -/
inductive Agree (f : Position → Position) : List Token → List Token → Prop where
  | ending {t : Token} (ht : t.kind = .ending) (ts us : List Token) :
    Agree f (t :: ts) (t.moved f :: us)
  | cons (t : Token) {ts us : List Token} (h : Agree f ts us) : Agree f (t :: ts) (t.moved f :: us)

namespace Agree

/-- There is a next token, and as long as it does not end the input they agree after it. -/
theorem exists_cons (h : Agree f ts us) :
    ∃ t ts' us', ts = t :: ts' ∧ us = t.moved f :: us' ∧ ts'.length < ts.length ∧
      (t.kind ≠ .ending → Agree f ts' us') := by
  cases h with
  | @ending t ht ts' us' =>
    exact ⟨t, ts', us', rfl, rfl, Nat.lt_succ_self _, fun hne => absurd ht hne⟩
  | @cons t ts' us' h => exact ⟨t, ts', us', rfl, rfl, Nat.lt_succ_self _, fun _ => h⟩

theorem append (before : List Token) {e : Token} (he : e.kind = .ending) (ts us : List Token) :
    Agree f (before ++ e :: ts) (before.map (Token.moved f) ++ e.moved f :: us) := by
  induction before with
  | nil => exact .ending he ts us
  | cons t before ih => exact .cons t ih

/-- Lists that are the same up to an ending token agree where they stand. -/
theorem of_append (before : List Token) {e : Token} (he : e.kind = .ending) (ts us : List Token) :
    Agree id (before ++ e :: ts) (before ++ e :: us) := by
  simpa using append (f := id) before he ts us

theorem nextIs_eq (h : Agree f ts us) (k : Token.Kind) : nextIs k us = nextIs k ts := by
  obtain ⟨t, ts', us', rfl, rfl, -, -⟩ := h.exists_cons
  rfl

/-- They agree after a next token that is looked for. -/
theorem exists_of_nextIs (h : Agree f ts us) {k : Token.Kind} (hk : k ≠ .ending)
    (hnext : nextIs k ts = true) :
    ∃ t ts' us', ts = t :: ts' ∧ us = t.moved f :: us' ∧ ts'.length < ts.length ∧ t.kind = k ∧
      Agree f ts' us' := by
  obtain ⟨t, ts', us', rfl, rfl, hlt, htail⟩ := h.exists_cons
  rw [nextIs_cons, decide_eq_true_iff] at hnext
  exact ⟨t, ts', us', rfl, rfl, hlt, hnext, htail (by rwa [hnext])⟩

theorem tail (h : Agree f ts us) {k : Token.Kind} (hk : k ≠ .ending) (hnext : nextIs k ts = true) :
    Agree f ts.tail us.tail := by
  obtain ⟨t, ts', us', rfl, rfl, -, -, htail⟩ := h.exists_of_nextIs hk hnext
  exact htail

end Agree

/-- The same is read, up to what `g` does to it, and the lists that are left agree; or there is the
same mismatch at a token. -/
inductive Alike (f : Position → Position) (g : α → β) :
    Except Mismatch (α × List Token) → Except Mismatch (β × List Token) → Prop where
  | ok (a : α) {ts us : List Token} (h : Agree f ts us) : Alike f g (.ok (a, ts)) (.ok (g a, us))
  | error (x : Expected) (t : Token) :
    Alike f g (.error ⟨x, some t⟩) (.error ⟨x, some (t.moved f)⟩)

/-- Steps that go on alike after alike steps are alike. -/
theorem Alike.bind {g : α → β} {g' : α' → β'} {r : Except Mismatch (α × List Token)}
    {r' : Except Mismatch (β × List Token)} {k : α × List Token → Except Mismatch (α' × List Token)}
    {k' : β × List Token → Except Mismatch (β' × List Token)} (h : Alike f g r r')
    (hk : ∀ a ts us, r = .ok (a, ts) → Agree f ts us → Alike f g' (k (a, ts)) (k' (g a, us))) :
    Alike f g' (r >>= k) (r' >>= k') := by
  cases h with
  | ok a h => exact hk a _ _ rfl h
  | error x t => exact .error x t

theorem expect_alike {k : Token.Kind} (hk : k ≠ .ending) (h : Agree f ts us) :
    Alike f (Token.moved f) (read (expect k ts)) (read (expect k us)) := by
  obtain ⟨t, ts', us', rfl, rfl, -, htail⟩ := h.exists_cons
  rw [read_expect, read_expect]
  by_cases ht : t.kind = k
  · rw [if_pos ht, if_pos (show (t.moved f).kind = k from ht)]
    exact .ok t (htail (by rwa [ht]))
  · rw [if_neg ht, if_neg (show ¬(t.moved f).kind = k from ht)]
    exact .error _ t

/-! ## Expressions -/

mutual

theorem expr_alike (ts us : List Token) (h : Agree f ts us) :
    Alike f (Expr.moved f) (read (expr ts)) (read (expr us)) := by
  rw [read_expr, read_expr]
  refine (sum_alike ts us h).bind fun l vs ws hl hvs => ?_
  have hlt := length_lt_of_read hl
  exact comparisons_alike l vs ws hvs
termination_by 7 * ts.length + 4

theorem comparisons_alike (lhs : Expr) (ts us : List Token) (h : Agree f ts us) :
    Alike f (Expr.moved f) (read (comparisons lhs ts)) (read (comparisons (lhs.moved f) us)) := by
  obtain ⟨t, ts', us', hts, hus, hshort, htail⟩ := h.exists_cons
  rw [hts, hus]
  cases hop : comparison? t.kind with
  | none =>
    rw [read_comparisons_stop lhs hop,
      read_comparisons_stop _ (show comparison? (t.moved f).kind = none from hop), ← hts, ← hus]
    exact .ok lhs h
  | some op =>
    have hagree : Agree f ts' us' := by
      refine htail fun ht => ?_
      rw [ht] at hop
      cases hop
    rw [read_comparisons_more lhs hop,
      read_comparisons_more _ (show comparison? (t.moved f).kind = some op from hop)]
    refine (sum_alike ts' us' hagree).bind fun r vs ws hr hvs => ?_
    have hlt := length_lt_of_read hr
    exact comparisons_alike _ vs ws hvs
termination_by 7 * ts.length + 3

theorem sum_alike (ts us : List Token) (h : Agree f ts us) :
    Alike f (Expr.moved f) (read (sum ts)) (read (sum us)) := by
  rw [read_sum, read_sum]
  refine (primary_alike ts us h).bind fun l vs ws hl hvs => ?_
  have hlt := length_lt_of_read hl
  exact additions_alike l vs ws hvs
termination_by 7 * ts.length + 2

theorem additions_alike (lhs : Expr) (ts us : List Token) (h : Agree f ts us) :
    Alike f (Expr.moved f) (read (additions lhs ts)) (read (additions (lhs.moved f) us)) := by
  cases hp : nextIs .plus ts with
  | false =>
    rw [read_additions_stop lhs hp, read_additions_stop _ (by rwa [h.nextIs_eq])]
    exact .ok lhs h
  | true =>
    obtain ⟨t, ts', us', hts, hus, hshort, ht, hagree⟩ := h.exists_of_nextIs (by decide) hp
    rw [hts, hus, read_additions_more lhs ht, read_additions_more _ (t.kind_moved.trans ht)]
    refine (primary_alike ts' us' hagree).bind fun r vs ws hr hvs => ?_
    have hlt := length_lt_of_read hr
    exact additions_alike _ vs ws hvs
termination_by 7 * ts.length + 1

theorem primary_alike (ts us : List Token) (h : Agree f ts us) :
    Alike f (Expr.moved f) (read (primary ts)) (read (primary us)) := by
  obtain ⟨t, ts', us', hts, hus, hshort, htail⟩ := h.exists_cons
  rw [hts, hus]
  by_cases hnumber : t.kind = .number
  · rw [read_primary_number hnumber, read_primary_number (t.kind_moved.trans hnumber),
      Token.value?_moved]
    cases t.value? with
    | none => exact .error _ t
    | some v => exact .ok _ (htail (by rw [hnumber]; decide))
  by_cases hname : t.kind = .name
  · have hagree := htail (by rw [hname]; decide)
    cases hnext : nextIs .openParen ts' with
    | false =>
      rw [read_primary_var hname hnext,
        read_primary_var (t.kind_moved.trans hname) (by rwa [hagree.nextIs_eq])]
      exact .ok _ hagree
    | true =>
      obtain ⟨o, vs, ws, hts', hus', hshort', ho, hvs⟩ :=
        hagree.exists_of_nextIs (by decide) hnext
      rw [hts', hus', read_primary_call hname ho,
        read_primary_call (t.kind_moved.trans hname) (o.kind_moved.trans ho)]
      exact (arguments_alike vs ws hvs).bind fun es _ _ _ hrest => .ok _ hrest
  by_cases hparen : t.kind = .openParen
  · rw [read_primary_paren hparen, read_primary_paren (t.kind_moved.trans hparen)]
    refine (expr_alike ts' us' (htail (by rw [hparen]; decide))).bind fun e vs ws _ hvs => ?_
    exact (expect_alike (by decide) hvs).bind fun c _ _ _ hrest => .ok _ hrest
  · rw [read_primary_other hnumber hname hparen,
      @read_primary_other (t.moved f) us' hnumber hname hparen]
    exact .error _ t
termination_by 7 * ts.length

theorem arguments_alike (ts us : List Token) (h : Agree f ts us) :
    Alike f (Expr.movedAll f) (read (arguments ts)) (read (arguments us)) := by
  cases hnext : nextIs .closeParen ts with
  | true =>
    obtain ⟨c, ts', us', rfl, rfl, -, hc, hagree⟩ := h.exists_of_nextIs (by decide) hnext
    rw [read_arguments_none hc, read_arguments_none (c.kind_moved.trans hc)]
    exact .ok _ hagree
  | false =>
    rw [read_arguments_some hnext, read_arguments_some (by rwa [h.nextIs_eq])]
    exact moreArguments_alike ts us h
termination_by 7 * ts.length + 6

theorem moreArguments_alike (ts us : List Token) (h : Agree f ts us) :
    Alike f (Expr.movedAll f) (read (moreArguments ts)) (read (moreArguments us)) := by
  rw [read_moreArguments, read_moreArguments]
  refine (expr_alike ts us h).bind fun e vs ws he hvs => ?_
  have hlt := length_lt_of_read he
  rw [hvs.nextIs_eq]
  split
  · next hcomma =>
    refine (moreArguments_alike vs.tail ws.tail (hvs.tail (by decide) hcomma)).bind ?_
    exact fun es _ _ _ hrest => .ok _ hrest
  · exact (expect_alike (by decide) hvs).bind fun c _ _ _ hrest => .ok _ hrest
termination_by 7 * ts.length + 5
decreasing_by
  all_goals simp_wf
  all_goals omega

end

/-! ## Statements -/

theorem expression_alike (h : Agree f ts us) :
    Alike f (Stmt.moved f) (read (expression ts)) (read (expression us)) := by
  rw [read_expression, read_expression]
  refine (expr_alike ts us h).bind fun e vs ws _ hvs => ?_
  exact (expect_alike (by decide) hvs).bind fun c _ _ _ hrest => .ok _ hrest

theorem jump_alike (j : Jump) (p : Position) (h : Agree f ts us) :
    Alike f (Stmt.moved f) (read (jump j p ts)) (read (jump j (f p) us)) := by
  cases hnext : nextIs .name ts with
  | false =>
    rw [read_jump j p hnext, read_jump j _ (by rwa [h.nextIs_eq])]
    exact (expect_alike (by decide) h).bind fun c _ _ _ hrest => .ok _ hrest
  | true =>
    obtain ⟨x, ts', us', rfl, rfl, -, hx, hagree⟩ := h.exists_of_nextIs (by decide) hnext
    rw [read_jump_label j p hx, read_jump_label j _ (x.kind_moved.trans hx)]
    exact (expect_alike (by decide) hagree).bind fun c _ _ _ hrest => .ok _ hrest

theorem assign_alike {x a : Token} (hx : x.kind = .name) (ha : a.kind = .arrow)
    (h : Agree f ts us) :
    Alike f (Stmt.moved f) (read (statement (x :: a :: ts)))
      (read (statement (x.moved f :: a.moved f :: us))) := by
  rw [read_statement_assign hx ha,
    read_statement_assign (x.kind_moved.trans hx) (a.kind_moved.trans ha)]
  refine (expr_alike ts us h).bind fun e vs ws _ hvs => ?_
  exact (expect_alike (by decide) hvs).bind fun c _ _ _ hrest => .ok _ hrest

mutual

theorem block_alike (ts us : List Token) (h : Agree f ts us) :
    Alike f (Stmt.movedAll f) (read (block ts)) (read (block us)) := by
  rw [read_block, read_block]
  refine (expect_alike (by decide) h).bind fun o vs ws ho hvs => ?_
  have hlt := length_lt_of_read ho
  exact statements_alike vs ws hvs
termination_by 7 * ts.length + 1

theorem statements_alike (ts us : List Token) (h : Agree f ts us) :
    Alike f (Stmt.movedAll f) (read (statements ts)) (read (statements us)) := by
  obtain ⟨t, ts', us', hts, hus, -, htail⟩ := h.exists_cons
  by_cases hclose : t.kind = .closeBrace
  · rw [hts, hus, read_statements_end hclose,
      read_statements_end (t.kind_moved.trans hclose)]
    exact .ok _ (htail (by rw [hclose]; decide))
  by_cases hending : t.kind = .ending
  · rw [hts, hus, read_statements_ending hending,
      read_statements_ending (t.kind_moved.trans hending)]
    exact .error _ t
  · rw [hts, hus, read_statements_more hclose hending,
      @read_statements_more (t.moved f) us' hclose hending, ← hts, ← hus]
    refine (statement_alike ts us h).bind fun s vs ws hs hvs => ?_
    have hlt := length_lt_of_read hs
    exact (statements_alike vs ws hvs).bind fun ss _ _ _ hrest => .ok _ hrest
termination_by 7 * ts.length + 3

theorem statement_alike (ts us : List Token) (h : Agree f ts us) :
    Alike f (Stmt.moved f) (read (statement ts)) (read (statement us)) := by
  obtain ⟨t, ts', us', hts, hus, hshort, htail⟩ := h.exists_cons
  rw [hts, hus]
  by_cases hif : t.kind = .ifWord
  · rw [read_statement_if hif, read_statement_if (t.kind_moved.trans hif)]
    exact branch_alike ts' us' (htail (by rw [hif]; decide))
  by_cases hwhile : t.kind = .whileWord
  · rw [read_statement_while hwhile, read_statement_while (t.kind_moved.trans hwhile)]
    exact loop_alike _ _ ts' us' (htail (by rw [hwhile]; decide))
  by_cases hbreak : t.kind = .breakWord
  · rw [read_statement_break hbreak, read_statement_break (t.kind_moved.trans hbreak)]
    exact jump_alike _ _ (htail (by rw [hbreak]; decide))
  by_cases hcontinue : t.kind = .continueWord
  · rw [read_statement_continue hcontinue, read_statement_continue (t.kind_moved.trans hcontinue)]
    exact jump_alike _ _ (htail (by rw [hcontinue]; decide))
  by_cases harrow : t.kind = .name ∧ nextIs .arrow ts' = true
  · have hagree := htail (by rw [harrow.1]; decide)
    obtain ⟨a, vs, ws, rfl, rfl, -, ha, hvs⟩ := hagree.exists_of_nextIs (by decide) harrow.2
    exact assign_alike harrow.1 ha hvs
  by_cases hcolon : t.kind = .name ∧ nextIs .colon ts' = true
  · have hagree := htail (by rw [hcolon.1]; decide)
    obtain ⟨k, vs, ws, hts', hus', hshort', hk, hvs⟩ :=
      hagree.exists_of_nextIs (by decide) hcolon.2
    obtain ⟨w, vs', ws', hvs', hws', hshort'', htail'⟩ := hvs.exists_cons
    rw [hts', hus', read_statement_label hcolon.1 hk,
      read_statement_label (t.kind_moved.trans hcolon.1) (k.kind_moved.trans hk), hvs', hws',
      nextIs_cons, nextIs_cons, Token.kind_moved]
    by_cases hw : w.kind = .whileWord
    · rw [decide_eq_true hw, if_pos rfl, if_pos rfl]
      exact loop_alike _ _ vs' ws' (htail' (by rw [hw]; decide))
    · rw [decide_eq_false hw, if_neg Bool.false_ne_true, if_neg Bool.false_ne_true]
      exact .error _ w
  · have hname : ∀ {k : Token.Kind}, ¬(t.kind = .name ∧ nextIs k ts' = true) →
        (t.kind = .name → nextIs k ts' = false) ∧ (t.kind = .name → nextIs k us' = false) := by
      intro k hk
      refine ⟨fun ht => Bool.eq_false_iff.mpr fun hnext => hk ⟨ht, hnext⟩, fun ht => ?_⟩
      rw [(htail (by rw [ht]; decide)).nextIs_eq]
      exact Bool.eq_false_iff.mpr fun hnext => hk ⟨ht, hnext⟩
    rw [read_statement_expression hif hwhile hbreak hcontinue (hname harrow).1 (hname hcolon).1,
      @read_statement_expression (t.moved f) us' hif hwhile hbreak hcontinue (hname harrow).2
        (hname hcolon).2, ← hts, ← hus]
    exact expression_alike h
termination_by 7 * ts.length + 2

theorem branch_alike (ts us : List Token) (h : Agree f ts us) :
    Alike f (Stmt.moved f) (read (branch ts)) (read (branch us)) := by
  rw [read_branch, read_branch]
  refine (expr_alike ts us h).bind fun c vs ws hc hvs => ?_
  have hlt := length_lt_of_read hc
  refine (block_alike vs ws hvs).bind fun b vs' ws' hb hvs' => ?_
  have hlt' := length_lt_of_read hb
  rw [hvs'.nextIs_eq]
  split
  · next helse =>
    refine (block_alike vs'.tail ws'.tail (hvs'.tail (by decide) helse)).bind ?_
    exact fun e _ _ _ hrest => .ok _ hrest
  · exact .ok _ hvs'
termination_by 7 * ts.length + 2
decreasing_by
  all_goals simp_wf
  all_goals omega

theorem loop_alike (label? : Option String) (p : Position) (ts us : List Token)
    (h : Agree f ts us) :
    Alike f (Stmt.moved f) (read (loop label? p ts)) (read (loop label? (f p) us)) := by
  rw [read_loop, read_loop]
  refine (expr_alike ts us h).bind fun c vs ws hc hvs => ?_
  have hlt := length_lt_of_read hc
  exact (block_alike vs ws hvs).bind fun b _ _ _ hrest => .ok _ hrest
termination_by 7 * ts.length + 2

end

/-! ## Items -/

theorem moreParams_alike (ts us : List Token) (h : Agree f ts us) :
    Alike f id (read (moreParams ts)) (read (moreParams us)) := by
  rw [read_moreParams, read_moreParams]
  refine (expect_alike (by decide) h).bind fun x vs ws hx hvs => ?_
  have hlt := length_lt_of_read hx
  rw [hvs.nextIs_eq]
  split
  · next hcomma =>
    refine (moreParams_alike vs.tail ws.tail (hvs.tail (by decide) hcomma)).bind ?_
    exact fun xs _ _ _ hrest => .ok _ hrest
  · exact (expect_alike (by decide) hvs).bind fun c _ _ _ hrest => .ok _ hrest
termination_by ts.length
decreasing_by
  simp_wf
  omega

theorem params_alike (h : Agree f ts us) : Alike f id (read (params ts)) (read (params us)) := by
  cases hnext : nextIs .closeParen ts with
  | true =>
    obtain ⟨c, ts', us', rfl, rfl, -, hc, hagree⟩ := h.exists_of_nextIs (by decide) hnext
    rw [read_params_none hc, read_params_none (c.kind_moved.trans hc)]
    exact .ok _ hagree
  | false =>
    rw [read_params_some hnext, read_params_some (by rwa [h.nextIs_eq])]
    exact moreParams_alike ts us h

theorem body_alike (h : Agree f ts us) :
    Alike f (Option.map (Stmt.movedAll f)) (read (body ts)) (read (body us)) := by
  cases hnext : nextIs .semicolon ts with
  | true =>
    obtain ⟨s, ts', us', rfl, rfl, -, hs, hagree⟩ := h.exists_of_nextIs (by decide) hnext
    rw [read_body_none hs, read_body_none (s.kind_moved.trans hs)]
    exact .ok _ hagree
  | false =>
    cases ho : nextIs .openBrace ts with
    | true =>
      have hblock := block_alike ts us h
      obtain ⟨o, ts', us', rfl, rfl, -, hok, -⟩ := h.exists_of_nextIs (by decide) ho
      rw [read_body_some hok, read_body_some (o.kind_moved.trans hok)]
      exact hblock.bind fun b _ _ _ hrest => .ok _ hrest
    | false =>
      rw [read_body_other hnext ho,
        read_body_other (by rwa [h.nextIs_eq]) (by rwa [h.nextIs_eq])]
      obtain ⟨t, ts', us', rfl, rfl, -, -⟩ := h.exists_cons
      exact .error _ t

theorem item_alike (h : Agree f ts us) :
    Alike f (Item.moved f) (read (item ts)) (read (item us)) := by
  rw [read_item, read_item]
  refine (expect_alike (by decide) h).bind fun f _ _ _ h₁ => ?_
  refine (expect_alike (by decide) h₁).bind fun x _ _ _ h₂ => ?_
  refine (expect_alike (by decide) h₂).bind fun o _ _ _ h₃ => ?_
  refine (params_alike h₃).bind fun ps _ _ _ h₄ => ?_
  exact (body_alike h₄).bind fun b _ _ _ hrest => .ok _ hrest

/-- The same items are read at moved positions, or there is the same mismatch at a token. -/
theorem items_alike (ts us : List Token) (h : Agree f ts us) :
    (∀ is, items ts = .ok is → items us = .ok (is.map (Item.moved f))) ∧
      ∀ m, items ts = .error m → m.found?.isSome ∧ items us = .error (m.moved f) := by
  obtain ⟨t, ts', us', hts, hus, -⟩ := h.exists_cons
  by_cases hending : t.kind = .ending
  · rw [hts, hus, items_ending hending, items_ending (t.kind_moved.trans hending)]
    exact ⟨fun is his => by cases his; rfl, fun m hm => by cases hm⟩
  · rw [hts, hus, items_more hending, @items_more (t.moved f) us' hending, ← hts, ← hus]
    have hitem := item_alike h
    generalize hread : read (item ts) = r at hitem ⊢
    generalize read (item us) = r' at hitem ⊢
    cases hitem with
    | error x t => exact ⟨nofun, fun m hm => by cases hm; exact ⟨rfl, rfl⟩⟩
    | @ok i vs ws hvs =>
      have hlt := length_lt_of_read hread
      obtain ⟨hok, herror⟩ := items_alike vs ws hvs
      rw [ok_bind, ok_bind]
      cases his : items vs with
      | ok is =>
        rw [hok is his]
        exact ⟨fun is' his' => by cases his'; rfl, fun m hm => by cases hm⟩
      | error m =>
        rw [(herror m his).2]
        exact ⟨nofun, fun m' hm' => by cases hm'; exact ⟨(herror m his).1, rfl⟩⟩
termination_by ts.length

end Looplet.Parser
