import Looplet.Proofs.Tree.Completeness
import Looplet.Proofs.Tree.Soundness

/-!
# One token ahead

A step of the descent is decided by the tokens that it takes and by the one after them
(`OneAhead`): whatever comes later, it reads the same or refuses that one. Where it refuses a token,
the ones before it and any token that was expected begin something that the grammar allows
(`expr_ahead`).
-/

namespace Looplet

/-- A token of a kind, a number or a name among them. -/
def Token.sample (k : Kind) : Token :=
  ⟨k, k.spelling?.getD (if k = .number then "1" else "x"), Position.start⟩

namespace Parser

/-- The token is one of those that were expected. -/
inductive Expected.Describes : Expected → Token → Prop where
  | kind {k : Token.Kind} {t : Token} (ht : t.kind = k) (hv : k = .number → t.value?.isSome) :
    Describes (.kind k) t
  | semicolon {t : Token} (ht : t.kind = .semicolon) : Describes .semicolonOrBody t
  | body {t : Token} (ht : t.kind = .openBrace) : Describes .semicolonOrBody t
  | loop {t : Token} (ht : t.kind = .whileWord) : Describes .loopAfterLabel t
  | number {t : Token} (ht : t.kind = .number) (hv : t.value?.isSome) : Describes .expression t
  | name {t : Token} (ht : t.kind = .name) : Describes .expression t
  | paren {t : Token} (ht : t.kind = .openParen) : Describes .expression t

end Parser

namespace Grammar

open Looplet.Tree (Expr Stmt Item)

variable {α : Type} {P : List Token → α → Prop}

/-- The tokens can be continued to some that are allowed. -/
def Begins (P : List Token → α → Prop) (ts : List Token) : Prop :=
  ∃ more a, P (ts ++ more) a

theorem begins_of {ts : List Token} {a : α} (h : P ts a) : Begins P ts :=
  ⟨[], a, by rwa [List.append_nil]⟩

/-- The tokens are some that are allowed, and one that closes them. -/
def Closed (k : Token.Kind) (P : List Token → α → Prop) (ts : List Token) (a : α) : Prop :=
  ∃ us c, ts = us ++ [c] ∧ c.kind = k ∧ P us a

theorem isExpr_sample : IsExpr [.sample .number] (.int 1) :=
  .sum (.primary (.number rfl (by decide)))

end Grammar

namespace Parser

open Looplet.Tree (Expr Stmt Item)
open Grammar

variable {α β : Type} {t : Token} {ts : List Token}
  {f : List Token → Except Mismatch (α × List Token)} {C D : List Token → Prop}

/-- On these tokens the step takes some and is decided by the next one. It reads a value, or it
refuses the next token where others are expected, with which what it has taken is as `C` says. -/
inductive OneAhead (f : List Token → Except Mismatch (α × List Token)) (C : List Token → Prop) :
    List Token → Prop where
  | reads {taken rest : List Token} (a : α)
    (h : ∀ more, more.head? = rest.head? → f (taken ++ more) = .ok (a, more)) :
    OneAhead f C (taken ++ rest)
  | refuses {taken rest : List Token} (x : Expected)
    (h : ∀ more, more.head? = rest.head? → f (taken ++ more) = .error ⟨x, rest.head?⟩)
    (hx : ∀ u, x.Describes u → C (taken ++ [u])) : OneAhead f C (taken ++ rest)

namespace OneAhead

/-- The step takes nothing. -/
theorem here (a : α) (h : ∀ us, us.head? = ts.head? → f us = .ok (a, us)) : OneAhead f C ts :=
  @reads _ f C [] ts a h

/-- The step refuses the first token. -/
theorem stops (x : Expected) (h : ∀ us, us.head? = ts.head? → f us = .error ⟨x, ts.head?⟩)
    (hx : ∀ u, x.Describes u → C [u]) : OneAhead f C ts :=
  @refuses _ f C [] ts x h hx

/-- The step takes a token whatever comes next. -/
theorem cons (h : OneAhead (fun us => f (t :: us)) (fun us => C (t :: us)) ts) :
    OneAhead f C (t :: ts) := by
  cases h with
  | @reads taken rest a h => exact @reads _ f C (t :: taken) rest a h
  | @refuses taken rest x h hx => exact @refuses _ f C (t :: taken) rest x h hx

theorem imp (h : OneAhead f C ts) (hC : ∀ us, C us → D us) : OneAhead f D ts := by
  cases h with
  | reads a h => exact .reads a h
  | refuses x h hx => exact .refuses x h fun u hu => hC _ (hx u hu)

theorem head?_append_congr {us vs : List Token} (taken : List Token) (h : us.head? = vs.head?) :
    (taken ++ us).head? = (taken ++ vs).head? := by
  rw [List.head?_append, List.head?_append, h]

/-- A step that is another one on all tokens that start like these. -/
theorem congr {g : List Token → Except Mismatch (α × List Token)}
    (hfg : ∀ us, us.head? = ts.head? → f us = g us) (h : OneAhead g C ts) : OneAhead f C ts := by
  cases h with
  | reads a h =>
    exact .reads a fun more hm => (hfg _ (head?_append_congr _ hm)).trans (h more hm)
  | refuses x h hx =>
    exact .refuses x (fun more hm => (hfg _ (head?_append_congr _ hm)).trans (h more hm)) hx

theorem exists_rest (h : OneAhead f C ts) : ∃ taken rest, ts = taken ++ rest ∧
    ((∃ a, ∀ more, more.head? = rest.head? → f (taken ++ more) = .ok (a, more)) ∨
      ∃ x, (∀ more, more.head? = rest.head? → f (taken ++ more) = .error ⟨x, rest.head?⟩) ∧
        ∀ u, x.Describes u → C (taken ++ [u])) := by
  cases h with
  | @reads taken rest a h => exact ⟨taken, rest, rfl, .inl ⟨a, h⟩⟩
  | @refuses taken rest x h hx => exact ⟨taken, rest, rfl, .inr ⟨x, h, hx⟩⟩

/-- After a first token that the step takes for some tokens that follow, it is decided by what
comes next. -/
theorem uncons (h : OneAhead f C (t :: ts))
    (hok : ∃ us a rest, f (t :: us) = .ok (a, rest) ∧ rest.length < (t :: us).length) :
    OneAhead (fun us => f (t :: us)) (fun us => C (t :: us)) ts := by
  obtain ⟨us, a, rest, hus, hlt⟩ := hok
  obtain ⟨taken, rest', hts, hstep⟩ := h.exists_rest
  cases taken with
  | nil =>
    have hhead : (t :: us).head? = rest'.head? := by rw [← List.nil_append rest', ← hts]; rfl
    rcases hstep with ⟨b, h⟩ | ⟨x, h, -⟩
    · cases hus.symm.trans (h _ hhead)
      exact absurd hlt (Nat.lt_irrefl _)
    · cases hus.symm.trans (h _ hhead)
  | cons v taken =>
    cases hts
    rcases hstep with ⟨b, h⟩ | ⟨x, h, hx⟩
    · exact .reads b h
    · exact .refuses x h hx

/-- One step after the other. The first one has read tokens that `P` allows. -/
theorem bind {g : α × List Token → Except Mismatch (β × List Token)} {P : List Token → α → Prop}
    (hf : OneAhead f C ts)
    (hs : ∀ a rest, f ts = .ok (a, rest) → ∃ us, ts = us ++ rest ∧ P us a)
    (hC : ∀ us, C us → D us)
    (hg : ∀ a us rest, f ts = .ok (a, rest) → P us a →
      OneAhead (fun vs => g (a, vs)) (fun vs => D (us ++ vs)) rest) :
    OneAhead (fun us => f us >>= g) D ts := by
  cases hf with
  | refuses x h hx =>
    refine .refuses x (fun more hm => ?_) fun u hu => hC _ (hx u hu)
    rw [h more hm]
    rfl
  | @reads taken rest a h =>
    have hread := h rest rfl
    obtain ⟨us, hus, hP⟩ := hs a rest hread
    obtain rfl := List.append_cancel_right hus
    have hrest := hg a taken rest hread hP
    cases hrest with
    | @reads taken' rest' b h' =>
      rw [← List.append_assoc]
      refine .reads b fun more hm => ?_
      rw [List.append_assoc, h _ (head?_append_congr taken' hm)]
      exact h' more hm
    | @refuses taken' rest' x h' hx =>
      rw [← List.append_assoc]
      refine .refuses x (fun more hm => ?_) fun u hu => ?_
      · rw [List.append_assoc, h _ (head?_append_congr taken' hm)]
        exact h' more hm
      · rw [List.append_assoc]
        exact hx u hu

/-- What is made of the value afterwards takes nothing. -/
theorem map (hf : OneAhead f C ts) (g : α → β) :
    OneAhead (fun us => f us >>= fun r => pure (g r.1, r.2)) C ts := by
  cases hf with
  | reads a h =>
    refine .reads (g a) fun more hm => ?_
    rw [h more hm]
    rfl
  | refuses x h hx =>
    refine .refuses x (fun more hm => ?_) hx
    rw [h more hm]
    rfl

end OneAhead

/-! ## Single tokens -/

theorem nextIs_congr {us : List Token} (h : us.head? = ts.head?) (k : Token.Kind) :
    nextIs k us = nextIs k ts := by
  rw [nextIs, nextIs, h]

theorem expect_ahead (k : Token.Kind) (hk : ∀ c, c.kind = k → C [c]) (ts : List Token) :
    OneAhead (fun us => read (expect k us)) C ts := by
  have hx : ∀ u, (Expected.kind k).Describes u → C [u] := by
    rintro u ⟨hu⟩
    exact hk u hu
  cases ts with
  | nil =>
    refine .stops (.kind k) (fun us hus => ?_) hx
    obtain rfl := List.head?_eq_none_iff.mp hus
    rfl
  | cons t ts =>
    by_cases ht : t.kind = k
    · exact .cons (.here t fun us _ => read_expect_of_kind ht us)
    · refine .stops (.kind k) (fun us hus => ?_) hx
      obtain ⟨us, rfl⟩ := List.head?_eq_some_iff.mp hus
      exact (read_expect k t us).trans (if_neg ht)

/-- A step that ends with a token of one kind. -/
theorem closing_ahead (k : Token.Kind) (hk : ∀ c, c.kind = k → C [c]) (a : α) (ts : List Token) :
    OneAhead (fun us => do
      let c ← read (expect k us)
      return (a, c.2)) C ts :=
  (expect_ahead k hk ts).map fun _ => a

theorem expect_sound {k : Token.Kind} {c : Token} {rest : List Token}
    (h : read (expect k ts) = .ok (c, rest)) : ∃ us, ts = us ++ rest ∧ us = [c] ∧ c.kind = k := by
  obtain ⟨rfl, hk⟩ := read_expect_eq_ok.mp h
  exact ⟨[c], rfl, rfl, hk⟩

/-! ## Expressions -/

/-- Every token that an expression is expected to start with starts one. -/
theorem begins_primary (u : Token) (h : Expected.expression.Describes u) :
    Begins IsPrimary [u] := by
  cases h with
  | number hu hv =>
    obtain ⟨v, hv⟩ := Option.isSome_iff_exists.mp hv
    exact begins_of (.number hu hv)
  | name hu => exact begins_of (.var hu)
  | paren hu =>
    exact ⟨[.sample .number, .sample .closeParen], .int 1, .paren hu isExpr_sample rfl⟩

mutual

theorem expr_ahead (ts : List Token) : OneAhead (fun us => read (expr us)) (Begins IsExpr) ts := by
  refine .congr (fun us _ => read_expr us) (.bind (sum_ahead ts) (fun _ _ => sum_sound ts)
    (fun us ⟨more, e, h⟩ => ⟨more, e, .sum h⟩) fun l us rest hread hl => ?_)
  have hlt := length_lt_of_read hread
  exact comparisons_ahead rest (.sum hl)
termination_by 7 * ts.length + 4

theorem comparisons_ahead (ts : List Token) {ls : List Token} {lhs : Expr} (hl : IsExpr ls lhs) :
    OneAhead (fun us => read (comparisons lhs us)) (fun us => Begins IsExpr (ls ++ us)) ts := by
  match ts with
  | [] =>
    refine .here lhs fun us hus => ?_
    obtain rfl := List.head?_eq_none_iff.mp hus
    exact read_comparisons_nil lhs
  | t :: ts =>
    cases hop : comparison? t.kind with
    | none =>
      refine .here lhs fun us hus => ?_
      obtain ⟨us, rfl⟩ := List.head?_eq_some_iff.mp hus
      exact read_comparisons_stop lhs hop
    | some op =>
      refine .cons (.congr (fun us _ => read_comparisons_more lhs hop)
        (.bind (sum_ahead ts) (fun _ _ => sum_sound ts) ?_ fun r us rest hread hr => ?_))
      · rintro us ⟨more, r, hr⟩
        exact ⟨more, .binary op lhs r, by simpa using IsExpr.comparison hl hop hr⟩
      · have hlt := length_lt_of_read hread
        refine (comparisons_ahead rest (.comparison hl hop hr)).imp fun vs h => ?_
        simpa using h
termination_by 7 * ts.length + 3

theorem sum_ahead (ts : List Token) : OneAhead (fun us => read (sum us)) (Begins IsSum) ts := by
  refine .congr (fun us _ => read_sum us) (.bind (primary_ahead ts) (fun _ _ => primary_sound ts)
    (fun us ⟨more, e, h⟩ => ⟨more, e, .primary h⟩) fun l us rest hread hl => ?_)
  have hlt := length_lt_of_read hread
  exact additions_ahead rest (.primary hl)
termination_by 7 * ts.length + 2

theorem additions_ahead (ts : List Token) {ls : List Token} {lhs : Expr} (hl : IsSum ls lhs) :
    OneAhead (fun us => read (additions lhs us)) (fun us => Begins IsSum (ls ++ us)) ts := by
  cases hp : nextIs .plus ts with
  | false => exact .here lhs fun us hus => read_additions_stop lhs ((nextIs_congr hus _).trans hp)
  | true =>
    obtain ⟨t, ts', hts, ht⟩ := nextIs_iff.mp hp
    have hlt : ts'.length < ts.length := by
      rw [hts]
      exact Nat.lt_succ_self _
    rw [hts]
    refine .cons (.congr (fun us _ => read_additions_more lhs ht)
      (.bind (primary_ahead ts') (fun _ _ => primary_sound ts') ?_ fun r us rest hread hr => ?_))
    · rintro us ⟨more, r, hr⟩
      exact ⟨more, .binary .add lhs r, by simpa using IsSum.add hl ht hr⟩
    · have hlt' := length_lt_of_read hread
      refine (additions_ahead rest (.add hl ht hr)).imp fun vs h => ?_
      simpa using h
termination_by 7 * ts.length + 1

theorem primary_ahead (ts : List Token) :
    OneAhead (fun us => read (primary us)) (Begins IsPrimary) ts := by
  match ts with
  | [] =>
    refine .stops .expression (fun us hus => ?_) begins_primary
    obtain rfl := List.head?_eq_none_iff.mp hus
    exact read_primary_nil
  | t :: ts =>
    by_cases hnumber : t.kind = .number
    · cases hv : t.value? with
      | none =>
        refine .stops (.kind .number) (fun us hus => ?_) ?_
        · obtain ⟨us, rfl⟩ := List.head?_eq_some_iff.mp hus
          rw [read_primary_number hnumber, hv]
          rfl
        · rintro u ⟨hu, hv⟩
          exact begins_primary u (.number hu (hv rfl))
      | some v =>
        refine .cons (.here (.int v) fun us _ => ?_)
        rw [read_primary_number hnumber, hv]
    · by_cases hname : t.kind = .name
      · cases hnext : nextIs .openParen ts with
        | false =>
          exact .cons (.here _ fun us hus =>
            read_primary_var hname ((nextIs_congr hus _).trans hnext))
        | true =>
          obtain ⟨o, ts', rfl, ho⟩ := nextIs_iff.mp hnext
          refine .cons (.cons (.congr (fun us _ => read_primary_call hname ho)
            (.map (.imp (arguments_ahead ts') ?_) fun es => Expr.call t.text es t.position)))
          rintro us ⟨more, es, vs, c, hvs, hc, ha⟩
          refine ⟨more, .call t.text es t.position, ?_⟩
          rw [List.cons_append, List.cons_append, hvs]
          exact .call hname ho ha hc
      · by_cases hparen : t.kind = .openParen
        · refine .cons (.congr (fun us _ => read_primary_paren hparen)
            (.bind (expr_ahead ts) (fun _ _ => expr_sound ts) ?_ fun e us rest _ he => ?_))
          · rintro us ⟨more, e, he⟩
            refine ⟨more ++ [.sample .closeParen], e, ?_⟩
            rw [List.cons_append, ← List.append_assoc]
            exact .paren hparen he rfl
          · refine closing_ahead .closeParen (fun c hc => ?_) e rest
            exact begins_of (.paren hparen he hc)
        · refine .stops .expression (fun us hus => ?_) begins_primary
          obtain ⟨us, rfl⟩ := List.head?_eq_some_iff.mp hus
          exact read_primary_other hnumber hname hparen
termination_by 7 * ts.length

theorem arguments_ahead (ts : List Token) :
    OneAhead (fun us => read (arguments us)) (Begins (Closed .closeParen IsArguments)) ts := by
  cases hnext : nextIs .closeParen ts with
  | true =>
    obtain ⟨c, ts', rfl, hc⟩ := nextIs_iff.mp hnext
    exact .cons (.here [] fun us _ => read_arguments_none hc)
  | false =>
    refine .congr (fun us hus => read_arguments_some ((nextIs_congr hus _).trans hnext))
      (.imp (moreArguments_ahead ts) ?_)
    rintro us ⟨more, es, vs, c, hvs, hc, ha⟩
    exact ⟨more, es, vs, c, hvs, hc, .some ha⟩
termination_by 7 * ts.length + 6

theorem moreArguments_ahead (ts : List Token) :
    OneAhead (fun us => read (moreArguments us)) (Begins (Closed .closeParen IsMoreArguments))
      ts := by
  refine .congr (fun us _ => read_moreArguments us) (.bind (expr_ahead ts)
    (fun _ _ => expr_sound ts) ?_ fun e us rest hread he => ?_)
  · rintro us ⟨more, e, he⟩
    exact ⟨more ++ [.sample .closeParen], [e], us ++ more, _, (List.append_assoc ..).symm, rfl,
      .one he⟩
  · have hlt := length_lt_of_read hread
    cases hcomma : nextIs .comma rest with
    | true =>
      obtain ⟨k, rest', rfl, hk⟩ := nextIs_iff.mp hcomma
      have hlt' : rest'.length < ts.length := Nat.lt_trans (Nat.lt_succ_self _) hlt
      refine .cons (.congr (fun vs _ => if_pos (by rw [nextIs_cons, hk]; rfl))
        (.map (.imp (moreArguments_ahead rest') ?_) fun es => e :: es))
      rintro vs ⟨more, es, ws, c, hws, hc, ha⟩
      exact ⟨more, e :: es, us ++ k :: ws, c, by simp [hws], hc, .more he hk ha⟩
    | false =>
      refine .congr (fun vs hvs => if_neg ?_)
        (closing_ahead .closeParen (fun c hc => ?_) [e] rest)
      · rw [nextIs_congr hvs, hcomma]
        exact Bool.false_ne_true
      · exact begins_of ⟨us, c, rfl, hc, .one he⟩
termination_by 7 * ts.length + 5
decreasing_by
  all_goals simp_wf
  all_goals omega

end

end Parser

end Looplet
