import Looplet.Proofs.Tree.Descent
import Looplet.Proofs.Tree.Language

/-!
# The descent moves on

On a list that ends in an ending token, every step of the descent by index looks at tokens of the
list only, ends within a budget that is linear in the number of tokens before the next ending one,
and leaves the index there at the latest; if it reads something it has moved (`Ends`). It reads what
the descent over lists reads.

    d.run ts i = .done a i'         read (p (ts.drop i)) = .ok (a, ts.drop i')    i < i' ≤ j
    d.run ts i = .mismatch x t i'   read (p (ts.drop i)) = .error ⟨x, some t⟩     i' ≤ j
-/

namespace Looplet.Descent

open Looplet.Tree (Expr Stmt Item)
open Looplet.Parser (Mismatch Expected Step comparison? nextIs read nextIs_cons Terminated)

variable {α β : Type} {ts : List Token} {i i' j least : Nat} {t : Token}

/-! ## The next ending token -/

theorem getElem?_of_drop (ht : ts.drop i = t :: ts.drop (i + 1)) : ts[i]? = some t := by
  rw [← List.head?_drop, ht, List.head?_cons]

/-- The first ending token from the index `i` on is at `j`. -/
structure EndsAt (ts : List Token) (i j : Nat) : Prop where
  le : i ≤ j
  ending : ∃ e, ts[j]? = some e ∧ e.kind = .ending
  first : ∀ k t, i ≤ k → k < j → ts[k]? = some t → t.kind ≠ .ending

namespace EndsAt

theorem mono (h : EndsAt ts i j) (hle : i ≤ i') (hle' : i' ≤ j) : EndsAt ts i' j where
  le := hle'
  ending := h.ending
  first k t hk := h.first k t (Nat.le_trans hle hk)

theorem end_lt_length (h : EndsAt ts i j) : j < ts.length := by
  obtain ⟨e, he, -⟩ := h.ending
  exact (List.getElem?_eq_some_iff.mp he).1

theorem lt_length (h : EndsAt ts i j) : i < ts.length :=
  Nat.lt_of_le_of_lt h.le h.end_lt_length

theorem exists_token (h : EndsAt ts i j) : ∃ t, ts.drop i = t :: ts.drop (i + 1) :=
  ⟨_, List.drop_eq_getElem_cons h.lt_length⟩

/-- A token that is not an ending one comes before the next ending one. -/
theorem next (h : EndsAt ts i j) (ht : ts.drop i = t :: ts.drop (i + 1)) (hk : t.kind ≠ .ending) :
    EndsAt ts (i + 1) j := by
  refine h.mono (Nat.le_succ i) (Nat.lt_of_le_of_ne h.le ?_)
  rintro rfl
  obtain ⟨e, he, hke⟩ := h.ending
  rw [getElem?_of_drop ht] at he
  cases he
  exact hk hke

theorem unique (h : EndsAt ts i j) (h' : EndsAt ts i i') : j = i' := by
  obtain ⟨e, he, hk⟩ := h.ending
  obtain ⟨e', he', hk'⟩ := h'.ending
  exact Nat.le_antisymm (Nat.le_of_not_lt fun hlt => h.first i' e' h'.le hlt he' hk')
    (Nat.le_of_not_lt fun hlt => h'.first j e h.le hlt he hk)

theorem eq_of_ending (h : EndsAt ts i j) (ht : ts.drop i = t :: ts.drop (i + 1))
    (hk : t.kind = .ending) : i = j := by
  refine Nat.le_antisymm h.le (Nat.le_of_not_lt fun hlt => ?_)
  exact h.first i t (Nat.le_refl i) hlt (getElem?_of_drop ht) hk

end EndsAt

theorem exists_endsAt (h : Terminated ts) (hi : i < ts.length) : ∃ j, EndsAt ts i j := by
  have hdrop : Terminated (ts.drop i) := by
    obtain ⟨last, hlast, hk⟩ := h
    refine ⟨last, ?_, hk⟩
    rw [List.getLast?_drop, if_neg (Nat.not_le.mpr hi), hlast]
  obtain ⟨before, e, after, hsplit, hbefore, he⟩ := Parser.exists_first_ending hdrop
  have hget : ∀ k, ts[i + k]? = (before ++ e :: after)[k]? := fun k => by
    rw [← hsplit, List.getElem?_drop]
  refine ⟨i + before.length, Nat.le_add_right _ _, ⟨e, ?_, he⟩, fun k t hle hlt ht => ?_⟩
  · rw [hget, List.getElem?_append_right (Nat.le_refl _), Nat.sub_self]
    rfl
  · obtain ⟨k, rfl⟩ := Nat.exists_eq_add_of_le hle
    rw [hget, List.getElem?_append_left (by omega)] at ht
    exact hbefore t (List.mem_of_getElem? ht)

/-! ## Tokens -/

theorem run_bind (d : Descent α) (k : α → Descent β) (ts : List Token) (i : Nat) :
    (d >>= k).run ts i = match d.run ts i with
      | .outside => .outside
      | .unfinished => .unfinished
      | .mismatch x t i => .mismatch x t i
      | .done a i => (k a).run ts i := rfl

theorem bind_of_done {d : Descent α} {a : α} (h : d.run ts i = .done a i') (k : α → Descent β) :
    (d >>= k).run ts i = (k a).run ts i' := by
  rw [run_bind, h]

theorem peekAt_of_getElem? {ahead : Nat} (h : ts[i + ahead]? = some t) :
    (peekAt ahead).run ts i = .done t i := by
  have hlt := (List.getElem?_eq_some_iff.mp h).1
  have hmin : min (i + ahead) (ts.length - 1) = i + ahead := Nat.min_eq_left (by omega)
  simp only [peekAt, hmin, h]

section

variable (ht : ts.drop i = t :: ts.drop (i + 1))

include ht

theorem peek_of_drop : peek.run ts i = .done t i :=
  peekAt_of_getElem? (getElem?_of_drop ht)

theorem check_of_drop (k : Token.Kind) : (check k).run ts i = .done (nextIs k (ts.drop i)) i := by
  rw [check, bind_of_done (peek_of_drop ht), ht]
  rfl

theorem advance_of_drop (hk : t.kind ≠ .ending) : advance.run ts i = .done t (i + 1) := by
  rw [advance, bind_of_done (peek_of_drop ht), if_pos hk]
  rfl

theorem expect_of_drop {k : Token.Kind} (hk : t.kind = k) (hne : k ≠ .ending) :
    (expect k).run ts i = .done t (i + 1) := by
  rw [expect, bind_of_done (check_of_drop ht k), ht, nextIs_cons, decide_eq_true hk, if_pos rfl,
    advance_of_drop ht (by rwa [hk])]

theorem unexpected_of_drop (x : Expected) :
    (unexpected x : Descent α).run ts i = .mismatch x t i := by
  rw [unexpected, bind_of_done (peek_of_drop ht)]
  rfl

end

theorem EndsAt.exists_of_nextIs (h : EndsAt ts i j) {k : Token.Kind} (hk : k ≠ .ending)
    (hnext : nextIs k (ts.drop i) = true) :
    ∃ t, ts.drop i = t :: ts.drop (i + 1) ∧ t.kind = k ∧ EndsAt ts (i + 1) j := by
  obtain ⟨t, ht⟩ := h.exists_token
  rw [ht, nextIs_cons, decide_eq_true_iff] at hnext
  exact ⟨t, ht, hnext, h.next ht (by rwa [hnext])⟩

theorem check_of_endsAt (h : EndsAt ts i j) (k : Token.Kind) :
    (check k).run ts i = .done (nextIs k (ts.drop i)) i := by
  obtain ⟨t, ht⟩ := h.exists_token
  exact check_of_drop ht k

theorem eat_of_true (h : EndsAt ts i j) {k : Token.Kind} (hk : k ≠ .ending)
    (hnext : nextIs k (ts.drop i) = true) : (eat k).run ts i = .done true (i + 1) := by
  obtain ⟨t, ht, hkind, -⟩ := h.exists_of_nextIs hk hnext
  rw [eat, bind_of_done (check_of_endsAt h k), hnext, if_pos rfl,
    bind_of_done (advance_of_drop ht (by rwa [hkind]))]
  rfl

theorem eat_of_false (h : EndsAt ts i j) {k : Token.Kind}
    (hnext : nextIs k (ts.drop i) = false) : (eat k).run ts i = .done false i := by
  rw [eat, bind_of_done (check_of_endsAt h k), hnext, if_neg Bool.false_ne_true]
  rfl

/-! ## How steps end -/

/-- The descent ends with what is read off the list at its index, at `least` at the earliest and at
`j` at the latest; or with the same mismatch, and no later. -/
inductive Ends (ts : List Token) (least j : Nat) :
    Outcome α → Except Mismatch (α × List Token) → Prop where
  | done (a : α) {i : Nat} (lo : least ≤ i) (hi : i ≤ j) :
    Ends ts least j (.done a i) (.ok (a, ts.drop i))
  | mismatch (x : Expected) (t : Token) {i : Nat} (hi : i ≤ j) :
    Ends ts least j (.mismatch x t i) (.error ⟨x, some t⟩)

namespace Ends

variable {least' : Nat} {r : Except Mismatch (α × List Token)}

theorem mono {o : Outcome α} (h : Ends ts least j o r) (hle : least' ≤ least) :
    Ends ts least' j o r := by
  cases h with
  | done a lo hi => exact .done a (Nat.le_trans hle lo) hi
  | mismatch x t hi => exact .mismatch x t hi

theorem of_ok {o : Outcome α} {a : α} {rest : List Token} (h : Ends ts least j o (.ok (a, rest))) :
    ∃ i, o = .done a i ∧ least ≤ i ∧ i ≤ j ∧ rest = ts.drop i := by
  generalize hr : Except.ok (a, rest) = r at h
  cases h with
  | done a' lo hi =>
    cases hr
    exact ⟨_, rfl, lo, hi, rfl⟩
  | mismatch x t hi => cases hr

/-- Steps that go on from where the ones before them end. -/
theorem bind {d : Descent α} {k : α → Descent β}
    {k' : α × List Token → Except Mismatch (β × List Token)} (h : Ends ts least j (d.run ts i) r)
    (hk : ∀ a i', least ≤ i' → i' ≤ j → Ends ts least' j ((k a).run ts i') (k' (a, ts.drop i'))) :
    Ends ts least' j ((d >>= k).run ts i) (r >>= k') := by
  rw [run_bind]
  generalize d.run ts i = o at h
  cases h with
  | done a lo hi => exact hk a _ lo hi
  | mismatch x t hi => exact .mismatch x t hi

end Ends

/-- Steps that go on in one of two ways, by whether there is a token of some kind to take. -/
theorem eat_ends (h : EndsAt ts i j) {k : Token.Kind} (hk : k ≠ .ending) {d d' : Descent α}
    {r r' : Except Mismatch (α × List Token)}
    (htrue : EndsAt ts (i + 1) j → Ends ts least j (d.run ts (i + 1)) r)
    (hfalse : Ends ts least j (d'.run ts i) r') :
    Ends ts least j ((eat k >>= fun b => if b = true then d else d').run ts i)
      (if nextIs k (ts.drop i) = true then r else r') := by
  cases hnext : nextIs k (ts.drop i) with
  | true =>
    obtain ⟨t, -, -, hafter⟩ := h.exists_of_nextIs hk hnext
    rw [bind_of_done (eat_of_true h hk hnext), if_pos rfl, if_pos rfl]
    exact htrue hafter
  | false =>
    rw [bind_of_done (eat_of_false h hnext), if_neg Bool.false_ne_true,
      if_neg Bool.false_ne_true]
    exact hfalse

theorem expect_ends (h : EndsAt ts i j) {k : Token.Kind} (hk : k ≠ .ending) :
    Ends ts (i + 1) j ((expect k).run ts i) (read (Parser.expect k (ts.drop i))) := by
  obtain ⟨t, ht⟩ := h.exists_token
  by_cases hkind : t.kind = k
  · rw [expect_of_drop ht hkind hk, ht, Parser.read_expect, if_pos hkind]
    exact .done t (Nat.le_refl _) (h.next ht (by rwa [hkind])).le
  · rw [expect, bind_of_done (check_of_drop ht k), ht, nextIs_cons, decide_eq_false hkind,
      if_neg Bool.false_ne_true, unexpected_of_drop ht, Parser.read_expect, if_neg hkind]
    exact .mismatch _ t h.le

/-! ## Expressions -/

mutual

theorem expr_ends (n : Nat) {i : Nat} (h : EndsAt ts i j) (hn : 7 * (j - i) + 4 < n) :
    Ends ts (i + 1) j ((expr n).run ts i) (read (Parser.expr (ts.drop i))) := by
  obtain ⟨n, rfl⟩ := Nat.exists_eq_succ_of_ne_zero (Nat.ne_zero_of_lt hn)
  rw [expr, Parser.read_expr]
  refine (sum_ends n h (by omega)).bind fun l i' lo hi => ?_
  exact (comparisons_ends n l (h.mono (by omega) hi) (by omega)).mono lo

theorem comparisons_ends (n : Nat) (lhs : Expr) {i : Nat} (h : EndsAt ts i j)
    (hn : 7 * (j - i) + 3 < n) :
    Ends ts i j ((comparisons n lhs).run ts i) (read (Parser.comparisons lhs (ts.drop i))) := by
  obtain ⟨n, rfl⟩ := Nat.exists_eq_succ_of_ne_zero (Nat.ne_zero_of_lt hn)
  obtain ⟨t, ht⟩ := h.exists_token
  rw [comparisons, bind_of_done (peek_of_drop ht)]
  cases hop : comparison? t.kind with
  | none =>
    rw [ht, Parser.read_comparisons_stop lhs hop, ← ht]
    exact .done lhs (Nat.le_refl i) h.le
  | some op =>
    have hne : t.kind ≠ .ending := by
      intro hk
      rw [hk] at hop
      cases hop
    have hnext := h.next ht hne
    have := hnext.le
    rw [ht, Parser.read_comparisons_more lhs hop, bind_of_done (advance_of_drop ht hne)]
    refine (sum_ends n hnext (by omega)).bind fun r i' lo hi => ?_
    exact (comparisons_ends n _ (h.mono (by omega) hi) (by omega)).mono (by omega)

theorem sum_ends (n : Nat) {i : Nat} (h : EndsAt ts i j) (hn : 7 * (j - i) + 2 < n) :
    Ends ts (i + 1) j ((sum n).run ts i) (read (Parser.sum (ts.drop i))) := by
  obtain ⟨n, rfl⟩ := Nat.exists_eq_succ_of_ne_zero (Nat.ne_zero_of_lt hn)
  rw [sum, Parser.read_sum]
  refine (primary_ends n h (by omega)).bind fun l i' lo hi => ?_
  exact (additions_ends n l (h.mono (by omega) hi) (by omega)).mono lo

theorem additions_ends (n : Nat) (lhs : Expr) {i : Nat} (h : EndsAt ts i j)
    (hn : 7 * (j - i) + 1 < n) :
    Ends ts i j ((additions n lhs).run ts i) (read (Parser.additions lhs (ts.drop i))) := by
  obtain ⟨n, rfl⟩ := Nat.exists_eq_succ_of_ne_zero (Nat.ne_zero_of_lt hn)
  rw [additions]
  cases hplus : nextIs .plus (ts.drop i) with
  | false =>
    rw [bind_of_done (eat_of_false h hplus), Parser.read_additions_stop lhs hplus]
    exact .done lhs (Nat.le_refl i) h.le
  | true =>
    obtain ⟨t, ht, hk, hnext⟩ := h.exists_of_nextIs (by decide) hplus
    have := hnext.le
    rw [bind_of_done (eat_of_true h (by decide) hplus), ht, Parser.read_additions_more lhs hk,
      if_pos rfl]
    refine (primary_ends n hnext (by omega)).bind fun r i' lo hi => ?_
    exact (additions_ends n _ (h.mono (by omega) hi) (by omega)).mono (by omega)

theorem primary_ends (n : Nat) {i : Nat} (h : EndsAt ts i j) (hn : 7 * (j - i) < n) :
    Ends ts (i + 1) j ((primary n).run ts i) (read (Parser.primary (ts.drop i))) := by
  obtain ⟨n, rfl⟩ := Nat.exists_eq_succ_of_ne_zero (Nat.ne_zero_of_lt hn)
  obtain ⟨t, ht⟩ := h.exists_token
  rw [primary, bind_of_done (peek_of_drop ht)]
  split
  · next hk =>
    have hne : t.kind ≠ .ending := by rw [hk]; decide
    have hnext := h.next ht hne
    rw [ht, Parser.read_primary_number hk, bind_of_done (advance_of_drop ht hne)]
    cases t.value? with
    | none => exact .mismatch _ t hnext.le
    | some v => exact .done _ (Nat.le_refl _) hnext.le
  · next hk =>
    have hne : t.kind ≠ .ending := by rw [hk]; decide
    have hnext := h.next ht hne
    rw [ht, bind_of_done (advance_of_drop ht hne)]
    cases hopen : nextIs .openParen (ts.drop (i + 1)) with
    | false =>
      rw [bind_of_done (eat_of_false hnext hopen), Parser.read_primary_var hk hopen]
      exact .done _ (Nat.le_refl _) hnext.le
    | true =>
      obtain ⟨o, ho, hok, hnext'⟩ := hnext.exists_of_nextIs (by decide) hopen
      have := hnext'.le
      rw [bind_of_done (eat_of_true hnext (by decide) hopen), if_pos rfl, ho,
        Parser.read_primary_call hk hok]
      exact (arguments_ends n hnext' (by omega)).bind fun as i' lo hi => .done _ (by omega) hi
  · next hk =>
    have hne : t.kind ≠ .ending := by rw [hk]; decide
    have hnext := h.next ht hne
    have := hnext.le
    rw [ht, Parser.read_primary_paren hk, bind_of_done (advance_of_drop ht hne)]
    refine (expr_ends n hnext (by omega)).bind fun e i' lo hi => ?_
    refine (expect_ends (h.mono (by omega) hi) (by decide)).bind fun c i'' lo' hi' => ?_
    exact .done e (by omega) hi'
  · next hnumber hname hparen =>
    rw [ht, Parser.read_primary_other hnumber hname hparen, unexpected_of_drop ht]
    exact .mismatch _ t h.le

theorem arguments_ends (n : Nat) {i : Nat} (h : EndsAt ts i j) (hn : 7 * (j - i) + 6 < n) :
    Ends ts (i + 1) j ((arguments n).run ts i) (read (Parser.arguments (ts.drop i))) := by
  obtain ⟨n, rfl⟩ := Nat.exists_eq_succ_of_ne_zero (Nat.ne_zero_of_lt hn)
  rw [arguments, bind_of_done (check_of_endsAt h _)]
  cases hclose : nextIs .closeParen (ts.drop i) with
  | true =>
    obtain ⟨c, hc, hk, hnext⟩ := h.exists_of_nextIs (by decide) hclose
    rw [if_pos rfl, hc, Parser.read_arguments_none hk,
      bind_of_done (expect_of_drop hc hk (by decide))]
    exact .done _ (Nat.le_refl _) hnext.le
  | false =>
    rw [if_neg Bool.false_ne_true, Parser.read_arguments_some hclose]
    exact moreArguments_ends n h (by omega)

theorem moreArguments_ends (n : Nat) {i : Nat} (h : EndsAt ts i j) (hn : 7 * (j - i) + 5 < n) :
    Ends ts (i + 1) j ((moreArguments n).run ts i) (read (Parser.moreArguments (ts.drop i))) := by
  obtain ⟨n, rfl⟩ := Nat.exists_eq_succ_of_ne_zero (Nat.ne_zero_of_lt hn)
  rw [moreArguments, Parser.read_moreArguments]
  refine (expr_ends n h (by omega)).bind fun e i' lo hi => ?_
  have h' := h.mono (by omega) hi
  refine eat_ends h' (by decide) (fun hnext => ?_) ?_
  · have := hnext.le
    rw [List.tail_drop]
    exact (moreArguments_ends n hnext (by omega)).bind fun es i'' lo' hi' => .done _ (by omega) hi'
  · exact (expect_ends h' (by decide)).bind fun c i'' lo' hi' => .done _ (by omega) hi'

end

/-! ## Statements -/

theorem expression_ends (n : Nat) (h : EndsAt ts i j) (hn : 7 * (j - i) + 4 < n) :
    Ends ts (i + 1) j ((expression n).run ts i) (read (Parser.expression (ts.drop i))) := by
  rw [expression, Parser.read_expression]
  refine (expr_ends n h hn).bind fun e i' lo hi => ?_
  exact (expect_ends (h.mono (by omega) hi) (by decide)).bind fun c i'' lo' hi' =>
    .done _ (by omega) hi'

theorem assignment_ends (n : Nat) {a : Token} (h : EndsAt ts i j)
    (ht : ts.drop i = t :: ts.drop (i + 1)) (ha : ts.drop (i + 1) = a :: ts.drop (i + 1 + 1))
    (hname : t.kind = .name) (harrow : a.kind = .arrow) (hn : 7 * (j - i) < n) :
    Ends ts (i + 1) j ((assignment n).run ts i) (read (Parser.statement (ts.drop i))) := by
  have hne : t.kind ≠ .ending := by rw [hname]; decide
  have hne' : a.kind ≠ .ending := by rw [harrow]; decide
  have hnext := (h.next ht hne).next ha hne'
  have := hnext.le
  rw [ht, ha, Parser.read_statement_assign hname harrow, assignment,
    bind_of_done (advance_of_drop ht hne), bind_of_done (advance_of_drop ha hne')]
  refine (expr_ends n hnext (by omega)).bind fun e i' lo hi => ?_
  exact (expect_ends (h.mono (by omega) hi) (by decide)).bind fun c i'' lo' hi' =>
    .done _ (by omega) hi'

theorem jump_ends (kind : Jump) (h : EndsAt ts i j) (ht : ts.drop i = t :: ts.drop (i + 1))
    (hne : t.kind ≠ .ending) :
    Ends ts (i + 1) j ((jump kind).run ts i)
      (read (Parser.jump kind t.position (ts.drop (i + 1)))) := by
  have hnext := h.next ht hne
  rw [jump, bind_of_done (advance_of_drop ht hne), bind_of_done (check_of_endsAt hnext _)]
  cases hname : nextIs .name (ts.drop (i + 1)) with
  | true =>
    obtain ⟨x, hx, hk, hnext'⟩ := hnext.exists_of_nextIs (by decide) hname
    rw [if_pos rfl, bind_of_done (advance_of_drop hx (by rw [hk]; decide)), hx,
      Parser.read_jump_label kind _ hk]
    exact (expect_ends hnext' (by decide)).bind fun c i' lo hi => .done _ (by omega) hi
  | false =>
    rw [if_neg Bool.false_ne_true, Parser.read_jump kind _ hname]
    exact (expect_ends hnext (by decide)).bind fun c i' lo hi => .done _ (by omega) hi

mutual

theorem block_ends (n : Nat) {i : Nat} (h : EndsAt ts i j) (hn : 7 * (j - i) < n) :
    Ends ts (i + 1) j ((block n).run ts i) (read (Parser.block (ts.drop i))) := by
  obtain ⟨n, rfl⟩ := Nat.exists_eq_succ_of_ne_zero (Nat.ne_zero_of_lt hn)
  rw [block, Parser.read_block]
  refine (expect_ends h (by decide)).bind fun o i' lo hi => ?_
  exact (statements_ends n (h.mono (by omega) hi) (by omega)).mono (by omega)

theorem statements_ends (n : Nat) {i : Nat} (h : EndsAt ts i j) (hn : 7 * (j - i) + 6 < n) :
    Ends ts (i + 1) j ((statements n).run ts i) (read (Parser.statements (ts.drop i))) := by
  obtain ⟨n, rfl⟩ := Nat.exists_eq_succ_of_ne_zero (Nat.ne_zero_of_lt hn)
  obtain ⟨t, ht⟩ := h.exists_token
  rw [statements, bind_of_done (check_of_drop ht _), ht, nextIs_cons]
  by_cases hclose : t.kind = .closeBrace
  · have hnext := h.next ht (by rw [hclose]; decide)
    rw [decide_eq_true hclose, if_pos rfl, Parser.read_statements_end hclose,
      bind_of_done (expect_of_drop ht hclose (by decide))]
    exact .done _ (Nat.le_refl _) hnext.le
  rw [decide_eq_false hclose, if_neg Bool.false_ne_true, bind_of_done (check_of_drop ht _), ht,
    nextIs_cons]
  by_cases hending : t.kind = .ending
  · rw [decide_eq_true hending, if_pos rfl, Parser.read_statements_ending hending,
      unexpected_of_drop ht]
    exact .mismatch _ t h.le
  · rw [decide_eq_false hending, if_neg Bool.false_ne_true,
      Parser.read_statements_more hclose hending, ← ht]
    refine (statement_ends n h (by omega)).bind fun s i' lo hi => ?_
    exact (statements_ends n (h.mono (by omega) hi) (by omega)).bind fun ss i'' lo' hi' =>
      .done _ (by omega) hi'

theorem statement_ends (n : Nat) {i : Nat} (h : EndsAt ts i j) (hn : 7 * (j - i) + 5 < n) :
    Ends ts (i + 1) j ((statement n).run ts i) (read (Parser.statement (ts.drop i))) := by
  obtain ⟨n, rfl⟩ := Nat.exists_eq_succ_of_ne_zero (Nat.ne_zero_of_lt hn)
  obtain ⟨t, ht⟩ := h.exists_token
  rw [statement, bind_of_done (peek_of_drop ht)]
  split
  · next hif =>
    rw [ht, Parser.read_statement_if hif]
    exact branch_ends n h ht hif (by omega)
  · next hwhile =>
    rw [ht, Parser.read_statement_while hwhile]
    exact loop_ends n none h ht hwhile (by omega)
  · next hbreak =>
    rw [ht, Parser.read_statement_break hbreak]
    exact jump_ends .leave h ht (by rw [hbreak]; decide)
  · next hcontinue =>
    rw [ht, Parser.read_statement_continue hcontinue]
    exact jump_ends .again h ht (by rw [hcontinue]; decide)
  · next hname =>
    have hne : t.kind ≠ .ending := by rw [hname]; decide
    have hnext := h.next ht hne
    obtain ⟨u, hu⟩ := hnext.exists_token
    have hpeek := peekAt_of_getElem? (getElem?_of_drop hu)
    rw [bind_of_done hpeek]
    by_cases harrow : u.kind = .arrow
    · rw [if_pos harrow]
      exact assignment_ends n h ht hu hname harrow (by omega)
    rw [if_neg harrow, bind_of_done hpeek]
    by_cases hcolon : u.kind = .colon
    · have hne' : u.kind ≠ .ending := by rw [hcolon]; decide
      have hnext' := hnext.next hu hne'
      have := hnext'.le
      obtain ⟨w, hw⟩ := hnext'.exists_token
      rw [if_pos hcolon, bind_of_done (advance_of_drop ht hne),
        bind_of_done (advance_of_drop hu hne'), bind_of_done (check_of_drop hw _), ht, hu,
        Parser.read_statement_label hname hcolon, hw, nextIs_cons]
      by_cases hwhile : w.kind = .whileWord
      · rw [decide_eq_true hwhile, if_pos rfl, if_pos rfl]
        exact (loop_ends n (some t) hnext' hw hwhile (by omega)).mono (by omega)
      · rw [decide_eq_false hwhile, if_neg Bool.false_ne_true, if_neg Bool.false_ne_true,
          unexpected_of_drop hw]
        exact .mismatch _ w hnext'.le
    · have hnot : ∀ k, u.kind ≠ k → t.kind = .name → nextIs k (ts.drop (i + 1)) = false := by
        intro k hk _
        rw [hu, nextIs_cons, decide_eq_false hk]
      rw [if_neg hcolon, ht, Parser.read_statement_expression (by simp [hname]) (by simp [hname])
        (by simp [hname]) (by simp [hname]) (hnot _ harrow) (hnot _ hcolon), ← ht]
      exact expression_ends n h (by omega)
  · next hif hwhile hbreak hcontinue hname =>
    rw [ht, Parser.read_statement_expression hif hwhile hbreak hcontinue
      (fun hk => absurd hk hname) (fun hk => absurd hk hname), ← ht]
    exact expression_ends n h (by omega)

theorem branch_ends (n : Nat) {i : Nat} {t : Token} (h : EndsAt ts i j)
    (ht : ts.drop i = t :: ts.drop (i + 1)) (hk : t.kind = .ifWord) (hn : 7 * (j - i) < n) :
    Ends ts (i + 1) j ((branch n).run ts i) (read (Parser.branch (ts.drop (i + 1)))) := by
  obtain ⟨n, rfl⟩ := Nat.exists_eq_succ_of_ne_zero (Nat.ne_zero_of_lt hn)
  have hnext := h.next ht (by rw [hk]; decide)
  have := hnext.le
  rw [branch, bind_of_done (expect_of_drop ht hk (by decide)), Parser.read_branch]
  refine (expr_ends n hnext (by omega)).bind fun c i' lo hi => ?_
  refine (block_ends n (h.mono (by omega) hi) (by omega)).bind fun b i'' lo' hi' => ?_
  have h' := h.mono (by omega) hi'
  refine eat_ends h' (by decide) (fun hnext' => ?_) (.done _ (by omega) hi')
  have := hnext'.le
  rw [List.tail_drop]
  exact (block_ends n hnext' (by omega)).bind fun b' i₃ lo₃ hi₃ => .done _ (by omega) hi₃

theorem loop_ends (n : Nat) (label? : Option Token) {i : Nat} {t : Token} (h : EndsAt ts i j)
    (ht : ts.drop i = t :: ts.drop (i + 1)) (hk : t.kind = .whileWord) (hn : 7 * (j - i) < n) :
    Ends ts (i + 1) j ((loop n label?).run ts i)
      (read (Parser.loop (label?.map Token.text) (label?.getD t).position (ts.drop (i + 1)))) := by
  obtain ⟨n, rfl⟩ := Nat.exists_eq_succ_of_ne_zero (Nat.ne_zero_of_lt hn)
  have hnext := h.next ht (by rw [hk]; decide)
  have := hnext.le
  rw [loop, bind_of_done (expect_of_drop ht hk (by decide)), Parser.read_loop]
  refine (expr_ends n hnext (by omega)).bind fun c i' lo hi => ?_
  exact (block_ends n (h.mono (by omega) hi) (by omega)).bind fun b i'' lo' hi' =>
    .done _ (by omega) hi'

end

/-! ## Items -/

theorem moreParams_ends (n : Nat) {i : Nat} (h : EndsAt ts i j) (hn : j - i < n) :
    Ends ts (i + 1) j ((moreParams n).run ts i) (read (Parser.moreParams (ts.drop i))) := by
  induction n generalizing i with
  | zero => exact absurd hn (Nat.not_lt_zero _)
  | succ n ih =>
    rw [moreParams, Parser.read_moreParams]
    refine (expect_ends h (by decide)).bind fun x i' lo hi => ?_
    have h' := h.mono (by omega) hi
    refine eat_ends h' (by decide) (fun hnext => ?_) ?_
    · have := hnext.le
      rw [List.tail_drop]
      exact (ih hnext (by omega)).bind fun xs i'' lo' hi' => .done _ (by omega) hi'
    · exact (expect_ends h' (by decide)).bind fun c i'' lo' hi' => .done _ (by omega) hi'

theorem params_ends (n : Nat) (h : EndsAt ts i j) (hn : j - i < n) :
    Ends ts (i + 1) j ((params n).run ts i) (read (Parser.params (ts.drop i))) := by
  rw [params, bind_of_done (check_of_endsAt h _)]
  cases hclose : nextIs .closeParen (ts.drop i) with
  | true =>
    obtain ⟨c, hc, hk, hnext⟩ := h.exists_of_nextIs (by decide) hclose
    rw [if_pos rfl, hc, Parser.read_params_none hk,
      bind_of_done (expect_of_drop hc hk (by decide))]
    exact .done _ (Nat.le_refl _) hnext.le
  | false =>
    rw [if_neg Bool.false_ne_true, Parser.read_params_some hclose]
    exact moreParams_ends n h hn

theorem body_ends (n : Nat) (h : EndsAt ts i j) (hn : 7 * (j - i) < n) :
    Ends ts (i + 1) j ((body n).run ts i) (read (Parser.body (ts.drop i))) := by
  rw [body]
  cases hsemi : nextIs .semicolon (ts.drop i) with
  | true =>
    obtain ⟨s, hs, hk, hnext⟩ := h.exists_of_nextIs (by decide) hsemi
    rw [bind_of_done (eat_of_true h (by decide) hsemi), if_pos rfl, hs,
      Parser.read_body_none hk]
    exact .done _ (Nat.le_refl _) hnext.le
  | false =>
    rw [bind_of_done (eat_of_false h hsemi), if_neg Bool.false_ne_true,
      bind_of_done (check_of_endsAt h _)]
    cases hopen : nextIs .openBrace (ts.drop i) with
    | true =>
      have hblock := block_ends n h hn
      obtain ⟨o, ho, hk, -⟩ := h.exists_of_nextIs (by decide) hopen
      rw [ho] at hblock ⊢
      rw [if_pos rfl, Parser.read_body_some hk]
      exact hblock.bind fun b i' lo hi => .done _ lo hi
    | false =>
      obtain ⟨t, ht⟩ := h.exists_token
      rw [if_neg Bool.false_ne_true, Parser.read_body_other hsemi hopen, ht,
        unexpected_of_drop ht]
      exact .mismatch _ t h.le

theorem item_ends (n : Nat) (h : EndsAt ts i j) (hn : 7 * (j - i) < n) :
    Ends ts (i + 1) j ((item n).run ts i) (read (Parser.item (ts.drop i))) := by
  rw [item, Parser.read_item]
  refine (expect_ends h (by decide)).bind fun f i₁ lo₁ hi₁ => ?_
  refine (expect_ends (h.mono (by omega) hi₁) (by decide)).bind fun x i₂ lo₂ hi₂ => ?_
  refine (expect_ends (h.mono (by omega) hi₂) (by decide)).bind fun o i₃ lo₃ hi₃ => ?_
  refine (params_ends n (h.mono (by omega) hi₃) (by omega)).bind fun ps i₄ lo₄ hi₄ => ?_
  exact (body_ends n (h.mono (by omega) hi₄) (by omega)).bind fun b i₅ lo₅ hi₅ =>
    .done _ (by omega) hi₅

/-- The items up to the next ending token. -/
theorem items_ends (n : Nat) {i : Nat} (h : EndsAt ts i j) (hn : 7 * (j - i) + 1 < n) :
    Ends ts j j ((items n).run ts i)
      ((fun is => (is, ts.drop j)) <$> Parser.items (ts.drop i)) := by
  induction n generalizing i with
  | zero => exact absurd hn (Nat.not_lt_zero _)
  | succ n ih =>
    obtain ⟨t, ht⟩ := h.exists_token
    rw [items, bind_of_done (check_of_drop ht _), ht, nextIs_cons]
    by_cases hending : t.kind = .ending
    · obtain rfl := h.eq_of_ending ht hending
      rw [decide_eq_true hending, if_pos rfl, Parser.items_ending hending]
      exact .done [] (Nat.le_refl i) (Nat.le_refl i)
    · rw [decide_eq_false hending, if_neg Bool.false_ne_true, Parser.items_more hending,
        map_bind, ← ht]
      refine (item_ends n h (by omega)).bind fun a i' lo hi => ?_
      have hrest : ∀ r : Except Mismatch (List Item),
          (fun is => (is, ts.drop j)) <$> (r >>= fun is => pure (a :: is))
            = ((fun is => (is, ts.drop j)) <$> r) >>= fun p => pure (a :: p.1, p.2) := by
        intro r
        rw [map_bind, bind_map_left]
        rfl
      rw [hrest]
      exact (ih (h.mono (by omega) hi) (by omega)).bind fun as i'' lo' hi' => .done _ lo' hi'

/-- What is read as a program, or the same mismatch. -/
inductive Answers : Outcome Program → Except Parser.Error Program → Prop where
  | done (p : Program) (i : Nat) : Answers (.done p i) (.ok p)
  | mismatch (x : Expected) (t : Token) (i : Nat) :
    Answers (.mismatch x t i) (.error (.unexpected x t))

theorem program_answers (h : Terminated ts) (n : Nat) (hn : 7 * ts.length ≤ n) :
    Answers ((program n).run ts 0) (Program.ofTokens ts) := by
  obtain ⟨last, hlast, hk⟩ := h
  have hpos : 0 < ts.length := List.length_pos_of_mem (List.mem_of_getLast? hlast)
  obtain ⟨j, hj⟩ := exists_endsAt ⟨last, hlast, hk⟩ hpos
  have hlt : j < ts.length := hj.end_lt_length
  have hitems := items_ends n hj (by omega)
  rw [program, run_bind]
  simp only [Program.ofTokens, hlast, if_pos hk]
  rw [List.drop_zero] at hitems
  generalize (items n).run ts 0 = o at hitems ⊢
  generalize Parser.items ts = r at hitems ⊢
  cases r with
  | error m =>
    cases hitems with
    | mismatch x t hi => exact .mismatch x t _
  | ok is =>
    obtain ⟨i, rfl, -⟩ := hitems.of_ok
    exact .done ⟨is⟩ i

/-! ## The whole descent -/

/-- With the budget `n` every step from the index `i` on ends, at `j` at the latest, as the descent
over lists does: those that read some part of a program have moved if they read one, the loops onto
an expression have not moved back, and that over items has come to `j`. -/
structure Advances (ts : List Token) (i j n : Nat) : Prop where
  item : Ends ts (i + 1) j ((item n).run ts i) (read (Parser.item (ts.drop i)))
  block : Ends ts (i + 1) j ((block n).run ts i) (read (Parser.block (ts.drop i)))
  statement : Ends ts (i + 1) j ((statement n).run ts i) (read (Parser.statement (ts.drop i)))
  expr : Ends ts (i + 1) j ((expr n).run ts i) (read (Parser.expr (ts.drop i)))
  sum : Ends ts (i + 1) j ((sum n).run ts i) (read (Parser.sum (ts.drop i)))
  primary : Ends ts (i + 1) j ((primary n).run ts i) (read (Parser.primary (ts.drop i)))
  items : Ends ts j j ((items n).run ts i)
    ((fun is => (is, ts.drop j)) <$> Parser.items (ts.drop i))
  statements : Ends ts (i + 1) j ((statements n).run ts i) (read (Parser.statements (ts.drop i)))
  params : Ends ts (i + 1) j ((moreParams n).run ts i) (read (Parser.moreParams (ts.drop i)))
  arguments : Ends ts (i + 1) j ((moreArguments n).run ts i)
    (read (Parser.moreArguments (ts.drop i)))
  comparisons : ∀ lhs, Ends ts i j ((comparisons n lhs).run ts i)
    (read (Parser.comparisons lhs (ts.drop i)))
  additions : ∀ lhs, Ends ts i j ((additions n lhs).run ts i)
    (read (Parser.additions lhs (ts.drop i)))

theorem EndsAt.advances (h : EndsAt ts i j) {n : Nat} (hn : 7 * (j - i) + 7 ≤ n) :
    Advances ts i j n where
  item := item_ends n h (by omega)
  block := block_ends n h (by omega)
  statement := statement_ends n h (by omega)
  expr := expr_ends n h (by omega)
  sum := sum_ends n h (by omega)
  primary := primary_ends n h (by omega)
  items := items_ends n h (by omega)
  statements := statements_ends n h (by omega)
  params := moreParams_ends n h (by omega)
  arguments := moreArguments_ends n h (by omega)
  comparisons lhs := comparisons_ends n lhs h (by omega)
  additions lhs := additions_ends n lhs h (by omega)

/-- On every list that ends in an ending token, however malformed, and from every index in it, each
step of the descent ends within a budget that is linear in the number of tokens before the next
ending one; it looks at tokens of the list only, leaves the index at that ending token at the
latest, and has moved it if it has read something. So the descent over the whole list ends too. -/
theorem descent_advances (hts : Terminated ts) (hi : i < ts.length) :
    (∃ j, EndsAt ts i j ∧ ∀ n, 7 * (j - i) + 7 ≤ n → Advances ts i j n) ∧
      ∀ n, 7 * ts.length ≤ n → Answers ((program n).run ts 0) (Program.ofTokens ts) := by
  obtain ⟨j, hj⟩ := exists_endsAt hts hi
  exact ⟨⟨j, hj, fun n hn => hj.advances hn⟩, program_answers hts⟩

/-- A sum, a parenthesis that closes nothing, and an ending token. -/
def overclosed : List Token :=
  [⟨.name, "n", ⟨1, 2⟩⟩, ⟨.plus, "+", ⟨1, 3⟩⟩, ⟨.number, "7", ⟨1, 4⟩⟩, ⟨.closeParen, ")", ⟨1, 5⟩⟩,
    .endingAt ⟨1, 6⟩]

/-- A number without digits and an ending token before all that. -/
def malformed : List Token :=
  ⟨.number, "x", ⟨1, 1⟩⟩ :: .endingAt ⟨1, 2⟩ :: overclosed

theorem endsAt_malformed : EndsAt malformed 2 6 where
  le := by decide
  ending := ⟨.endingAt ⟨1, 6⟩, rfl, rfl⟩
  first := by
    have hkinds : ∀ k < 6, 2 ≤ k → malformed[k]?.all (fun t => t.kind ≠ .ending) = true := by
      decide
    intro k t hle hlt ht
    have hk := hkinds k hlt hle
    rw [ht] at hk
    simpa using hk

theorem read_expr_overclosed : read (Parser.expr overclosed)
    = .ok (.binary .add (.var "n" ⟨1, 2⟩) (.int 7), overclosed.drop 3) := by
  have hvalue : (⟨.number, "7", ⟨1, 4⟩⟩ : Token).value? = some 7 := by decide +kernel
  rw [Parser.read_expr, Parser.read_sum, overclosed, Parser.read_primary_var rfl rfl, ok_bind,
    Parser.read_additions_more _ rfl, Parser.read_primary_number rfl, hvalue]
  simp only [ok_bind]
  rw [Parser.read_additions_stop _ rfl, ok_bind, Parser.read_comparisons_stop _ rfl]
  rfl

theorem ofTokens_malformed : Program.ofTokens malformed
    = .error (.unexpected (.kind .funcWord) ⟨.number, "x", ⟨1, 1⟩⟩) := by
  have hitems : Parser.items malformed
      = .error ⟨.kind .funcWord, some ⟨.number, "x", ⟨1, 1⟩⟩⟩ := by
    rw [malformed, Parser.items_more (by decide), Parser.read_item]
    rfl
  rw [Program.ofTokens, hitems]
  rfl

/-- Behind the inner ending token an expression is read, up to the parenthesis. As a program the
list is refused at its first token. -/
theorem advances_malformed :
    Terminated malformed ∧ 2 < malformed.length ∧
      (∀ n, 35 ≤ n → Advances malformed 2 6 n ∧
        (expr n).run malformed 2 = .done (.binary .add (.var "n" ⟨1, 2⟩) (.int 7)) 5) ∧
      ∀ n, 49 ≤ n → ∃ i, (program n).run malformed 0
        = .mismatch (.kind .funcWord) ⟨.number, "x", ⟨1, 1⟩⟩ i := by
  have hterminated : Terminated malformed := ⟨.endingAt ⟨1, 6⟩, rfl, rfl⟩
  have hlength : 2 < malformed.length := by decide
  obtain ⟨⟨j, hj, hadvances⟩, hprogram⟩ := descent_advances hterminated hlength
  obtain rfl : j = 6 := hj.unique endsAt_malformed
  refine ⟨hterminated, hlength, fun n hn => ⟨hadvances n hn, ?_⟩, fun n hn => ?_⟩
  · have hexpr := (hadvances n hn).expr
    rw [show malformed.drop 2 = overclosed from rfl, read_expr_overclosed] at hexpr
    obtain ⟨i, hrun, -, -, hrest⟩ := hexpr.of_ok
    -- what is left tells the index
    have hleft := congrArg List.length hrest
    rw [List.length_drop, List.length_drop] at hleft
    obtain rfl : i = 5 := by
      simp only [malformed, overclosed, List.length_cons, List.length_nil] at hleft
      omega
    exact hrun
  · have hanswers := hprogram n hn
    rw [ofTokens_malformed] at hanswers
    generalize (program n).run malformed 0 = o at hanswers ⊢
    cases hanswers with
    | mismatch x t i => exact ⟨i, rfl⟩

/-- A number that has no value is behind the index where the descent ends. -/
example : (primary 1).run malformed 0
    = .mismatch (.kind .number) ⟨.number, "x", ⟨1, 1⟩⟩ 1 := rfl

end Looplet.Descent
