import Looplet.Proofs.Tree.Language

/-!
# Numbers that are refused

The descent refuses a number for want of a value and for no other reason, and nothing but a number
where it expects one: every step leaves tokens that it was given, or its mismatch is fair to them
(`Fair`). So a list whose numbers have values is never refused where a number was expected
(`exists_of_unexpected_number`).
-/

namespace Looplet.Parser

open Looplet.Tree (Expr Stmt Item)

variable {α β : Type} {t : Token} {ts us : List Token}

/-- Where the mismatch expects a number, it has found one among the tokens that has no value. -/
def Mismatch.Fair (ts : List Token) (m : Mismatch) : Prop :=
  m.expected = .kind .number → ∃ t ∈ ts, m.found? = some t ∧ t.kind = .number ∧ t.value? = none

/-- What is read off the tokens leaves some of them, or the mismatch is fair to them. -/
inductive Fair (ts : List Token) : Except Mismatch (α × List Token) → Prop where
  | reads {a : α} {rest : List Token} (h : rest ⊆ ts) : Fair ts (.ok (a, rest))
  | refuses {m : Mismatch} (h : m.Fair ts) : Fair ts (.error m)

theorem Mismatch.fair_of_ne {m : Mismatch} (h : m.expected ≠ .kind .number) : m.Fair ts :=
  fun hm => absurd hm h

namespace Fair

variable {r : Except Mismatch (α × List Token)}

theorem mono (h : Fair us r) (hsub : us ⊆ ts) : Fair ts r := by
  cases h with
  | reads h => exact .reads (List.Subset.trans h hsub)
  | refuses h =>
    refine .refuses fun hm => ?_
    obtain ⟨t, ht, hfound⟩ := h hm
    exact ⟨t, hsub ht, hfound⟩

theorem cons (h : Fair ts r) : Fair (t :: ts) r :=
  h.mono (List.subset_cons_self t ts)

theorem tail (h : Fair ts.tail r) : Fair ts r :=
  h.mono (List.tail_sublist ts).subset

/-- A value is read without taking a token. -/
theorem here (a : α) : Fair ts (.ok (a, ts)) :=
  .reads (List.Subset.refl ts)

/-- A value is read off one token. -/
theorem one (a : α) : Fair (t :: ts) (.ok (a, ts)) :=
  (here a).cons

/-- Another expectation than that of a number is fair to all tokens. -/
theorem other {x : Expected} {found? : Option Token} (hx : x ≠ .kind .number) :
    Fair ts (.error ⟨x, found?⟩ : Except Mismatch (α × List Token)) :=
  .refuses (Mismatch.fair_of_ne hx)

/-- One step after the other. -/
theorem bind {f : α × List Token → Except Mismatch (β × List Token)} (hr : Fair ts r)
    (hf : ∀ a rest, r = .ok (a, rest) → Fair rest (f (a, rest))) : Fair ts (r >>= f) := by
  cases hr with
  | @reads a rest h => exact (hf a rest rfl).mono h
  | refuses h => exact .refuses h

/-- What is made of the value afterwards takes nothing. -/
theorem map (hr : Fair ts r) (g : α → β) : Fair ts (r >>= fun p => pure (g p.1, p.2)) :=
  hr.bind fun p _ _ => here (g p)

end Fair

theorem length_tail_le (ts : List Token) : ts.tail.length ≤ ts.length :=
  (List.tail_sublist ts).length_le

theorem expect_fair {k : Token.Kind} (hk : k ≠ .number) (ts : List Token) :
    Fair ts (read (expect k ts)) := by
  have hx : Expected.kind k ≠ .kind .number := fun h => hk (Expected.kind.inj h)
  cases ts with
  | nil => exact .other hx
  | cons t ts =>
    rw [read_expect]
    split
    · exact .one _
    · exact .other hx

/-- A step that ends with a token of one kind. -/
theorem closing_fair {k : Token.Kind} (hk : k ≠ .number) (a : α) (ts : List Token) :
    Fair ts (do
      let c ← read (expect k ts)
      return (a, c.2)) :=
  (expect_fair hk ts).map fun _ => a

/-! ## Expressions -/

mutual

theorem expr_fair (ts : List Token) : Fair ts (read (expr ts)) := by
  rw [read_expr]
  refine (sum_fair ts).bind fun l rest hread => ?_
  have hlt := length_lt_of_read hread
  exact comparisons_fair rest l
termination_by 7 * ts.length + 4

theorem comparisons_fair (ts : List Token) (lhs : Expr) : Fair ts (read (comparisons lhs ts)) := by
  match ts with
  | [] =>
    rw [read_comparisons_nil]
    exact .here _
  | t :: ts =>
    cases hop : comparison? t.kind with
    | none =>
      rw [read_comparisons_stop lhs hop]
      exact .here _
    | some op =>
      rw [read_comparisons_more lhs hop]
      refine ((sum_fair ts).bind fun r rest hread => ?_).cons
      have hlt := length_lt_of_read hread
      exact comparisons_fair rest (.binary op lhs r)
termination_by 7 * ts.length + 3

theorem sum_fair (ts : List Token) : Fair ts (read (sum ts)) := by
  rw [read_sum]
  refine (primary_fair ts).bind fun l rest hread => ?_
  have hlt := length_lt_of_read hread
  exact additions_fair rest l
termination_by 7 * ts.length + 2

theorem additions_fair (ts : List Token) (lhs : Expr) : Fair ts (read (additions lhs ts)) := by
  cases hp : nextIs .plus ts with
  | false =>
    rw [read_additions_stop lhs hp]
    exact .here _
  | true =>
    obtain ⟨t, ts', hts, ht⟩ := nextIs_iff.mp hp
    have hlt : ts'.length < ts.length := by
      rw [hts]
      exact Nat.lt_succ_self _
    rw [hts, read_additions_more lhs ht]
    refine ((primary_fair ts').bind fun r rest hread => ?_).cons
    have hlt' := length_lt_of_read hread
    exact additions_fair rest (.binary .add lhs r)
termination_by 7 * ts.length + 1

theorem primary_fair (ts : List Token) : Fair ts (read (primary ts)) := by
  match ts with
  | [] =>
    rw [read_primary_nil]
    exact .other nofun
  | t :: ts =>
    by_cases hnumber : t.kind = .number
    · rw [read_primary_number hnumber]
      cases hv : t.value? with
      | none => exact .refuses fun _ => ⟨t, List.mem_cons_self .., rfl, hnumber, hv⟩
      | some v => exact .one _
    by_cases hname : t.kind = .name
    · cases hnext : nextIs .openParen ts with
      | false =>
        rw [read_primary_var hname hnext]
        exact .one _
      | true =>
        obtain ⟨o, ts', rfl, ho⟩ := nextIs_iff.mp hnext
        rw [read_primary_call hname ho]
        exact ((arguments_fair ts').map fun es => Expr.call t.text es t.position).cons.cons
    by_cases hparen : t.kind = .openParen
    · rw [read_primary_paren hparen]
      refine ((expr_fair ts).bind fun e rest _ => ?_).cons
      exact closing_fair (by decide) e rest
    · rw [read_primary_other hnumber hname hparen]
      exact .other nofun
termination_by 7 * ts.length

theorem arguments_fair (ts : List Token) : Fair ts (read (arguments ts)) := by
  cases hnext : nextIs .closeParen ts with
  | true =>
    obtain ⟨c, ts', rfl, hc⟩ := nextIs_iff.mp hnext
    rw [read_arguments_none hc]
    exact .one _
  | false =>
    rw [read_arguments_some hnext]
    exact moreArguments_fair ts
termination_by 7 * ts.length + 6

theorem moreArguments_fair (ts : List Token) : Fair ts (read (moreArguments ts)) := by
  rw [read_moreArguments]
  refine (expr_fair ts).bind fun e rest hread => ?_
  have hlt := length_lt_of_read hread
  have hle := length_tail_le rest
  cases nextIs .comma rest with
  | true => exact ((moreArguments_fair rest.tail).map fun es => e :: es).tail
  | false => exact closing_fair (by decide) [e] rest
termination_by 7 * ts.length + 5
decreasing_by
  all_goals simp_wf
  all_goals omega

end

/-! ## Statements -/

theorem expression_fair (ts : List Token) : Fair ts (read (expression ts)) := by
  rw [read_expression]
  exact (expr_fair ts).bind fun e rest _ => closing_fair (by decide) (Stmt.expr e) rest

theorem jump_fair (j : Jump) (p : Position) (ts : List Token) : Fair ts (read (jump j p ts)) := by
  cases hnext : nextIs .name ts with
  | true =>
    obtain ⟨x, ts', rfl, hx⟩ := nextIs_iff.mp hnext
    rw [read_jump_label j p hx]
    exact (closing_fair (by decide) (Stmt.jump j (some x.text) p) ts').cons
  | false =>
    rw [read_jump j p hnext]
    exact closing_fair (by decide) (Stmt.jump j none p) ts

theorem assign_fair {x a : Token} (hx : x.kind = .name) (ha : a.kind = .arrow) (ts : List Token) :
    Fair (x :: a :: ts) (read (statement (x :: a :: ts))) := by
  rw [read_statement_assign hx ha]
  refine Fair.cons (.cons ((expr_fair ts).bind fun e rest _ => ?_))
  exact closing_fair (by decide) (Stmt.assign x.text e x.position) rest

mutual

theorem block_fair (ts : List Token) : Fair ts (read (block ts)) := by
  rw [read_block]
  refine (expect_fair (by decide) ts).bind fun o rest hread => ?_
  have hlt := length_lt_of_read hread
  exact statements_fair rest
termination_by 7 * ts.length + 1

theorem statements_fair (ts : List Token) : Fair ts (read (statements ts)) := by
  match ts with
  | [] =>
    rw [read_statements_nil]
    exact .other nofun
  | t :: ts =>
    by_cases hc : t.kind = .closeBrace
    · rw [read_statements_end hc]
      exact .one _
    by_cases hending : t.kind = .ending
    · rw [read_statements_ending hending]
      exact .other nofun
    · rw [read_statements_more hc hending]
      refine (statement_fair (t :: ts)).bind fun s rest hread => ?_
      have hlt : rest.length < ts.length + 1 := length_lt_of_read hread
      exact (statements_fair rest).map fun ss => s :: ss
termination_by 7 * ts.length + 3

theorem statement_fair (ts : List Token) : Fair ts (read (statement ts)) := by
  match ts with
  | [] =>
    rw [read_statement_nil]
    exact .other nofun
  | t :: ts =>
    by_cases hif : t.kind = .ifWord
    · rw [read_statement_if hif]
      exact (branch_fair ts).cons
    by_cases hwhile : t.kind = .whileWord
    · rw [read_statement_while hwhile]
      exact (loop_fair _ _ ts).cons
    by_cases hbreak : t.kind = .breakWord
    · rw [read_statement_break hbreak]
      exact (jump_fair _ _ ts).cons
    by_cases hcontinue : t.kind = .continueWord
    · rw [read_statement_continue hcontinue]
      exact (jump_fair _ _ ts).cons
    by_cases harrow : t.kind = .name ∧ nextIs .arrow ts = true
    · obtain ⟨a, ts', rfl, ha⟩ := nextIs_iff.mp harrow.2
      exact assign_fair harrow.1 ha ts'
    by_cases hcolon : t.kind = .name ∧ nextIs .colon ts = true
    · obtain ⟨k, ts', rfl, hk⟩ := nextIs_iff.mp hcolon.2
      rw [read_statement_label hcolon.1 hk]
      split
      · next hw =>
        obtain ⟨w, us, rfl, hwk⟩ := nextIs_iff.mp hw
        exact (loop_fair _ _ us).cons.cons.cons
      · exact .other nofun
    · rw [read_statement_expression hif hwhile hbreak hcontinue
        (fun hname => Bool.eq_false_iff.mpr fun ha => harrow ⟨hname, ha⟩)
        (fun hname => Bool.eq_false_iff.mpr fun hk => hcolon ⟨hname, hk⟩)]
      exact expression_fair (t :: ts)
termination_by 7 * ts.length + 2

theorem branch_fair (ts : List Token) : Fair ts (read (branch ts)) := by
  rw [read_branch]
  refine (expr_fair ts).bind fun c rest hread => ?_
  have hlt := length_lt_of_read hread
  refine (block_fair rest).bind fun b rest' hread' => ?_
  have hlt' := length_lt_of_read hread'
  have hle := length_tail_le rest'
  cases nextIs .elseWord rest' with
  | true => exact ((block_fair rest'.tail).map fun e => Stmt.ifElse c b e).tail
  | false => exact .here _
termination_by 7 * ts.length + 2

theorem loop_fair (label? : Option String) (p : Position) (ts : List Token) :
    Fair ts (read (loop label? p ts)) := by
  rw [read_loop]
  refine (expr_fair ts).bind fun c rest hread => ?_
  have hlt := length_lt_of_read hread
  exact (block_fair rest).map fun b => Stmt.loop label? c b p
termination_by 7 * ts.length + 2
decreasing_by
  all_goals simp_wf
  all_goals omega

end

/-! ## Items -/

theorem moreParams_fair (ts : List Token) : Fair ts (read (moreParams ts)) := by
  rw [read_moreParams]
  refine (expect_fair (by decide) ts).bind fun x rest hread => ?_
  have hlt := length_lt_of_read hread
  have hle := length_tail_le rest
  cases nextIs .comma rest with
  | true => exact ((moreParams_fair rest.tail).map fun xs => x.text :: xs).tail
  | false => exact closing_fair (by decide) [x.text] rest
termination_by ts.length
decreasing_by omega

theorem params_fair (ts : List Token) : Fair ts (read (params ts)) := by
  cases hnext : nextIs .closeParen ts with
  | true =>
    obtain ⟨c, ts', rfl, hc⟩ := nextIs_iff.mp hnext
    rw [read_params_none hc]
    exact .one _
  | false =>
    rw [read_params_some hnext]
    exact moreParams_fair ts

theorem body_fair (ts : List Token) : Fair ts (read (body ts)) := by
  cases hnext : nextIs .semicolon ts with
  | true =>
    obtain ⟨s, ts', rfl, hs⟩ := nextIs_iff.mp hnext
    rw [read_body_none hs]
    exact .one _
  | false =>
    cases ho : nextIs .openBrace ts with
    | true =>
      obtain ⟨o, ts', rfl, hok⟩ := nextIs_iff.mp ho
      rw [read_body_some hok]
      exact (block_fair (o :: ts')).map some
    | false =>
      rw [read_body_other hnext ho]
      exact .other nofun

theorem item_fair (ts : List Token) : Fair ts (read (item ts)) := by
  rw [read_item]
  refine (expect_fair (by decide) ts).bind fun f ts₁ _ => ?_
  refine (expect_fair (by decide) ts₁).bind fun x ts₂ _ => ?_
  refine (expect_fair (by decide) ts₂).bind fun o ts₃ _ => ?_
  refine (params_fair ts₃).bind fun ps ts₄ _ => ?_
  exact (body_fair ts₄).map fun b => (⟨x.text, ps, f.position, b⟩ : Item)

theorem items_fair (ts : List Token) {m : Mismatch} (h : items ts = .error m) : m.Fair ts := by
  match ts with
  | [] =>
    rw [items_nil] at h
    cases h
  | t :: ts =>
    by_cases hending : t.kind = .ending
    · rw [items_ending hending] at h
      cases h
    · rw [items_more hending, bind_eq_error] at h
      have hitem := item_fair (t :: ts)
      rcases h with h | ⟨⟨i, rest⟩, hi, h⟩
      · rw [h] at hitem
        cases hitem with
        | refuses h => exact h
      · have hlt : rest.length < ts.length + 1 := length_lt_of_read hi
        rw [hi] at hitem
        rcases bind_eq_error.mp h with h | ⟨is, -, h⟩
        · cases hitem with
          | reads hsub =>
            intro hm
            obtain ⟨u, hu, hfound⟩ := items_fair rest h hm
            exact ⟨u, hsub hu, hfound⟩
        · cases h
termination_by ts.length

/-- Where a number was expected, the token that is refused is a number of the list without a
value. -/
theorem exists_of_unexpected_number {ts : List Token} {t : Token}
    (h : Program.ofTokens ts = .error (.unexpected (.kind .number) t)) :
    t ∈ ts ∧ t.kind = .number ∧ t.value? = none := by
  by_cases hts : Terminated ts
  · obtain ⟨last, hlast, hk⟩ := hts
    simp only [Program.ofTokens, hlast, if_pos hk] at h
    cases his : items ts with
    | ok is => simp [his] at h
    | error m =>
      simp only [his, Except.error.injEq, Error.unexpected.injEq] at h
      obtain ⟨hexpected, hfound⟩ := h
      obtain ⟨u, hu, hfound', hnumber⟩ := items_fair ts his hexpected
      rw [hfound', Option.getD_some] at hfound
      subst hfound
      exact ⟨hu, hnumber⟩
  · rw [ofTokens_of_not_terminated hts] at h
    cases h

end Looplet.Parser
