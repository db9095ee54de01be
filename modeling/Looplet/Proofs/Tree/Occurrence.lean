import Looplet.Proofs.Tree.Completeness

/-!
# Where expressions occur

The tokens of a program hold those of its parts. A part is an expression, a statement or another
thing that a rule of the grammar reads (`Part`), and a rule that reads one part in another says
which tokens stand around it (`Frame`). Frames in frames are a context (`Context`), and whatever
tokens are the inner part, with the context around them they are the outer part (`Context.is`). So
an expression may be put in parentheses wherever it occurs (`Occurs.paren`), and each expression in
a tree occurs in its tokens (`mem_exprs_iff`).
-/

namespace Looplet

namespace Tree

mutual

/-- The expressions in an expression, itself included. -/
def Expr.exprs : Expr → List Expr
  | .int v => [.int v]
  | .var x p => [.var x p]
  | .binary op l r => .binary op l r :: (l.exprs ++ r.exprs)
  | .call f args p => .call f args p :: Expr.exprsOfAll args

/-- The expressions in expressions. -/
def Expr.exprsOfAll : List Expr → List Expr
  | [] => []
  | e :: es => e.exprs ++ Expr.exprsOfAll es

end

mutual

/-- The expressions in a statement. -/
def Stmt.exprs : Stmt → List Expr
  | .assign _ e _ => e.exprs
  | .ifThen c body => c.exprs ++ Stmt.exprsOfAll body
  | .ifElse c t e => c.exprs ++ (Stmt.exprsOfAll t ++ Stmt.exprsOfAll e)
  | .loop _ c body _ => c.exprs ++ Stmt.exprsOfAll body
  | .jump _ _ _ => []
  | .expr e => e.exprs

/-- The expressions in statements. -/
def Stmt.exprsOfAll : List Stmt → List Expr
  | [] => []
  | s :: ss => s.exprs ++ Stmt.exprsOfAll ss

end

/-- The expressions in an item. -/
def Item.exprs (i : Item) : List Expr :=
  Stmt.exprsOfAll (i.body?.getD [])

end Tree

/-- The expressions in a program. -/
def Program.exprs (p : Program) : List Tree.Expr :=
  p.items.flatMap Tree.Item.exprs

namespace Grammar

open Looplet.Tree (Expr Stmt Item)
open Looplet.Parser (comparison?)

/-! ## Parts in parts -/

/-- What a rule of the grammar reads. -/
inductive Part where
  | expr (e : Expr)
  | sum (e : Expr)
  | primary (e : Expr)
  | arguments (es : List Expr)
  | moreArguments (es : List Expr)
  | statement (s : Stmt)
  | block (ss : List Stmt)
  | statements (ss : List Stmt)
  | body (body? : Option (List Stmt))
  | item (i : Item)
  | items (is : List Item)

namespace Part

/-- The tokens are the part. -/
def Is (ts : List Token) : Part → Prop
  | expr e => IsExpr ts e
  | sum e => IsSum ts e
  | primary e => IsPrimary ts e
  | arguments es => IsArguments ts es
  | moreArguments es => IsMoreArguments ts es
  | statement s => IsStatement ts s
  | block ss => IsBlock ts ss
  | statements ss => IsStatements ts ss
  | body body? => IsBody ts body?
  | item i => IsItem ts i
  | items is => IsItems ts is

/-- The expression that the part is, at any level of binding, if it is one. -/
def value? : Part → Option Expr
  | expr e => some e
  | sum e => some e
  | primary e => some e
  | _ => none

/-- The part stands in an expression: it is one, or arguments. -/
def Inner : Part → Prop
  | expr _ => True
  | sum _ => True
  | primary _ => True
  | arguments _ => True
  | moreArguments _ => True
  | _ => False

/-- The expressions in the part. -/
def exprs : Part → List Expr
  | expr e => e.exprs
  | sum e => e.exprs
  | primary e => e.exprs
  | arguments es => Expr.exprsOfAll es
  | moreArguments es => Expr.exprsOfAll es
  | statement s => s.exprs
  | block ss => Stmt.exprsOfAll ss
  | statements ss => Stmt.exprsOfAll ss
  | body body? => Stmt.exprsOfAll (body?.getD [])
  | item i => i.exprs
  | items is => is.flatMap Item.exprs

end Part

/-- A rule reads the first part in the second one, with these tokens before and after it. -/
inductive Frame : List Token → List Token → Part → Part → Prop where
  | sum {e : Expr} : Frame [] [] (.sum e) (.expr e)
  | comparisonLeft {l r : Expr} {t : Token} {rs : List Token} {op : BinaryOp}
    (ht : comparison? t.kind = some op) (hr : IsSum rs r) :
    Frame [] (t :: rs) (.expr l) (.expr (.binary op l r))
  | comparisonRight {l r : Expr} {t : Token} {ls : List Token} {op : BinaryOp} (hl : IsExpr ls l)
    (ht : comparison? t.kind = some op) : Frame (ls ++ [t]) [] (.sum r) (.expr (.binary op l r))
  | primary {e : Expr} : Frame [] [] (.primary e) (.sum e)
  | addLeft {l r : Expr} {t : Token} {rs : List Token} (ht : t.kind = .plus)
    (hr : IsPrimary rs r) : Frame [] (t :: rs) (.sum l) (.sum (.binary .add l r))
  | addRight {l r : Expr} {t : Token} {ls : List Token} (hl : IsSum ls l) (ht : t.kind = .plus) :
    Frame (ls ++ [t]) [] (.primary r) (.sum (.binary .add l r))
  | call {x o c : Token} {es : List Expr} (hx : x.kind = .name) (ho : o.kind = .openParen)
    (hc : c.kind = .closeParen) :
    Frame [x, o] [c] (.arguments es) (.primary (.call x.text es x.position))
  | paren {o c : Token} {e : Expr} (ho : o.kind = .openParen) (hc : c.kind = .closeParen) :
    Frame [o] [c] (.expr e) (.primary e)
  | arguments {es : List Expr} : Frame [] [] (.moreArguments es) (.arguments es)
  | lastArgument {e : Expr} : Frame [] [] (.expr e) (.moreArguments [e])
  | argument {e : Expr} {es : List Expr} {c : Token} {us : List Token} (hc : c.kind = .comma)
    (hs : IsMoreArguments us es) : Frame [] (c :: us) (.expr e) (.moreArguments (e :: es))
  | laterArguments {e : Expr} {es : List Expr} {c : Token} {ts : List Token} (h : IsExpr ts e)
    (hc : c.kind = .comma) :
    Frame (ts ++ [c]) [] (.moreArguments es) (.moreArguments (e :: es))
  | assign {x a s : Token} {e : Expr} (hx : x.kind = .name) (ha : a.kind = .arrow)
    (hs : s.kind = .semicolon) :
    Frame [x, a] [s] (.expr e) (.statement (.assign x.text e x.position))
  | thenCondition {i : Token} {ts : List Token} {c : Expr} {t : List Stmt} (hi : i.kind = .ifWord)
    (ht : IsBlock ts t) : Frame [i] ts (.expr c) (.statement (.ifThen c t))
  | thenOnly {i : Token} {cs : List Token} {c : Expr} {t : List Stmt} (hi : i.kind = .ifWord)
    (hc : IsExpr cs c) : Frame (i :: cs) [] (.block t) (.statement (.ifThen c t))
  | elseCondition {i l : Token} {ts es : List Token} {c : Expr} {t e : List Stmt}
    (hi : i.kind = .ifWord) (ht : IsBlock ts t) (hl : l.kind = .elseWord) (he : IsBlock es e) :
    Frame [i] (ts ++ l :: es) (.expr c) (.statement (.ifElse c t e))
  | thenBlock {i l : Token} {cs es : List Token} {c : Expr} {t e : List Stmt}
    (hi : i.kind = .ifWord) (hc : IsExpr cs c) (hl : l.kind = .elseWord) (he : IsBlock es e) :
    Frame (i :: cs) (l :: es) (.block t) (.statement (.ifElse c t e))
  | elseBlock {i l : Token} {cs ts : List Token} {c : Expr} {t e : List Stmt}
    (hi : i.kind = .ifWord) (hc : IsExpr cs c) (ht : IsBlock ts t) (hl : l.kind = .elseWord) :
    Frame (i :: (cs ++ (ts ++ [l]))) [] (.block e) (.statement (.ifElse c t e))
  | loopCondition {w : Token} {ts : List Token} {c : Expr} {b : List Stmt}
    (hw : w.kind = .whileWord) (hb : IsBlock ts b) :
    Frame [w] ts (.expr c) (.statement (.loop none c b w.position))
  | loopBlock {w : Token} {cs : List Token} {c : Expr} {b : List Stmt} (hw : w.kind = .whileWord)
    (hc : IsExpr cs c) : Frame (w :: cs) [] (.block b) (.statement (.loop none c b w.position))
  | labelledCondition {x k w : Token} {ts : List Token} {c : Expr} {b : List Stmt}
    (hx : x.kind = .name) (hk : k.kind = .colon) (hw : w.kind = .whileWord) (hb : IsBlock ts b) :
    Frame [x, k, w] ts (.expr c) (.statement (.loop (some x.text) c b x.position))
  | labelledBlock {x k w : Token} {cs : List Token} {c : Expr} {b : List Stmt}
    (hx : x.kind = .name) (hk : k.kind = .colon) (hw : w.kind = .whileWord) (hc : IsExpr cs c) :
    Frame (x :: k :: w :: cs) [] (.block b) (.statement (.loop (some x.text) c b x.position))
  | value {s : Token} {e : Expr} (hs : s.kind = .semicolon) :
    Frame [] [s] (.expr e) (.statement (.expr e))
  | block {o c : Token} {ss : List Stmt} (ho : o.kind = .openBrace) (hc : c.kind = .closeBrace) :
    Frame [o] [c] (.statements ss) (.block ss)
  | statement {us : List Token} {s : Stmt} {ss : List Stmt} (hs : IsStatements us ss) :
    Frame [] us (.statement s) (.statements (s :: ss))
  | laterStatements {ts : List Token} {s : Stmt} {ss : List Stmt} (h : IsStatement ts s) :
    Frame ts [] (.statements ss) (.statements (s :: ss))
  | body {ss : List Stmt} : Frame [] [] (.block ss) (.body (some ss))
  | item {f x o c : Token} {ps : List Token} {params : List String} {b : Option (List Stmt)}
    (hf : f.kind = .funcWord) (hx : x.kind = .name) (ho : o.kind = .openParen)
    (hp : IsParams ps params) (hc : c.kind = .closeParen) :
    Frame (f :: x :: o :: (ps ++ [c])) [] (.body b) (.item ⟨x.text, params, f.position, b⟩)
  | firstItem {us : List Token} {i : Item} {is : List Item} (hs : IsItems us is) :
    Frame [] us (.item i) (.items (i :: is))
  | laterItems {ts : List Token} {i : Item} {is : List Item} (h : IsItem ts i) :
    Frame ts [] (.items is) (.items (i :: is))

/-- Rules read the first part somewhere in the second one, with these tokens before and after it. -/
inductive Context : List Token → List Token → Part → Part → Prop where
  | here (k : Part) : Context [] [] k k
  | inside {pre post pre' post' : List Token} {n m k : Part} (h : Context pre post n m)
    (hf : Frame pre' post' m k) : Context (pre' ++ pre) (post ++ post') n k

variable {pre mid post : List Token} {n m k : Part}

/-- Whatever tokens are the part in a frame, the frame around them makes the part around it. -/
theorem Frame.is (hf : Frame pre post m k) (hm : m.Is mid) : k.Is (pre ++ (mid ++ post)) := by
  cases hf with
  | sum => simpa [Part.Is] using IsExpr.sum hm
  | comparisonLeft ht hr => exact IsExpr.comparison hm ht hr
  | comparisonRight hl ht => simpa [Part.Is] using IsExpr.comparison hl ht hm
  | primary => simpa [Part.Is] using IsSum.primary hm
  | addLeft ht hr => exact IsSum.add hm ht hr
  | addRight hl ht => simpa [Part.Is] using IsSum.add hl ht hm
  | call hx ho hc => exact IsPrimary.call hx ho hm hc
  | paren ho hc => exact IsPrimary.paren ho hm hc
  | arguments => simpa [Part.Is] using IsArguments.some hm
  | lastArgument => simpa [Part.Is] using IsMoreArguments.one hm
  | argument hc hs => exact IsMoreArguments.more hm hc hs
  | laterArguments h hc => simpa [Part.Is] using IsMoreArguments.more h hc hm
  | assign hx ha hs => exact IsStatement.assign hx ha hm hs
  | thenCondition hi ht => simpa [Part.Is] using IsStatement.ifThen hi hm ht
  | thenOnly hi hc => simpa [Part.Is] using IsStatement.ifThen hi hc hm
  | elseCondition hi ht hl he => exact IsStatement.ifElse hi hm ht hl he
  | thenBlock hi hc hl he => exact IsStatement.ifElse hi hc hm hl he
  | elseBlock hi hc ht hl => simpa [Part.Is] using IsStatement.ifElse hi hc ht hl hm
  | loopCondition hw hb => simpa [Part.Is] using IsStatement.loop hw hm hb
  | loopBlock hw hc => simpa [Part.Is] using IsStatement.loop hw hc hm
  | labelledCondition hx hk hw hb => simpa [Part.Is] using IsStatement.labelled hx hk hw hm hb
  | labelledBlock hx hk hw hc => simpa [Part.Is] using IsStatement.labelled hx hk hw hc hm
  | value hs => exact IsStatement.expr hm hs
  | block ho hc => exact IsBlock.mk ho hm hc
  | statement hs => simpa [Part.Is] using IsStatements.cons hm hs
  | laterStatements h => simpa [Part.Is] using IsStatements.cons h hm
  | body => simpa [Part.Is] using IsBody.some hm
  | item hf hx ho hp hc => simpa [Part.Is] using IsItem.mk hf hx ho hp hc hm
  | firstItem hs => simpa [Part.Is] using IsItems.cons hm hs
  | laterItems h => simpa [Part.Is] using IsItems.cons h hm

/-- Whatever tokens are the part in a context, the context around them makes the part around it. -/
theorem Context.is (h : Context pre post n k) (hn : n.Is mid) : k.Is (pre ++ (mid ++ post)) := by
  induction h with
  | here => simpa using hn
  | inside _ hf ih => simpa using hf.is (ih hn)

/-! ## Occurrences -/

namespace Part

/-- The part holds the expression `e`: the tokens `mid`, with `pre` before and `post` after them,
are read as `e`. -/
def Holds (k : Part) (pre mid post : List Token) (e : Expr) : Prop :=
  ∃ n : Part, n.value? = some e ∧ n.Is mid ∧ Context pre post n k

/-- Some of the tokens are read as the expression `e` in the part. -/
def HoldsIn (k : Part) (ts : List Token) (e : Expr) : Prop :=
  ∃ pre mid post, ts = pre ++ (mid ++ post) ∧ k.Holds pre mid post e

variable {e : Expr} {ts : List Token}

theorem Holds.is (h : k.Holds pre mid post e) : k.Is (pre ++ (mid ++ post)) := by
  obtain ⟨n, -, hn, hcontext⟩ := h
  exact hcontext.is hn

/-- An expression in parentheses is a primary, so it may stand where a sum or a comparison may. -/
theorem Is.paren (hn : n.value? = some e) (h : n.Is ts) {o c : Token} (ho : o.kind = .openParen)
    (hc : c.kind = .closeParen) : n.Is (o :: (ts ++ [c])) := by
  have hprimary : ∀ {e : Expr}, IsExpr ts e → IsPrimary (o :: (ts ++ [c])) e :=
    fun he => .paren ho he hc
  cases n with
  | expr e => exact .sum (.primary (hprimary h))
  | sum e => exact .primary (hprimary (.sum h))
  | primary e => exact hprimary (.sum (.primary h))
  | _ => cases hn

/-- Where an expression occurs it occurs in parentheses, too. -/
theorem Holds.paren (h : k.Holds pre mid post e) {o c : Token} (ho : o.kind = .openParen)
    (hc : c.kind = .closeParen) : k.Holds pre (o :: (mid ++ [c])) post e := by
  obtain ⟨n, hn, his, hcontext⟩ := h
  exact ⟨n, hn, his.paren hn ho hc, hcontext⟩

theorem HoldsIn.here (hn : k.value? = some e) (h : k.Is ts) : k.HoldsIn ts e :=
  ⟨[], ts, [], by simp, k, hn, h, .here k⟩

theorem HoldsIn.frame (h : m.HoldsIn ts e) (hf : Frame pre post m k) :
    k.HoldsIn (pre ++ (ts ++ post)) e := by
  obtain ⟨pre', mid, post', rfl, n, hn, his, hcontext⟩ := h
  exact ⟨pre ++ pre', mid, post' ++ post, by simp, n, hn, his, hcontext.inside hf⟩

end Part

theorem IsBlock.ne_nil {ts : List Token} {ss : List Stmt} (h : IsBlock ts ss) : ts ≠ [] := by
  cases h with
  | mk => exact List.cons_ne_nil _ _

/-- What stands in an expression is not the end of anything else. -/
theorem Frame.inner_or_ne_nil (hf : Frame pre post m k) (hm : m.Inner) : k.Inner ∨ post ≠ [] := by
  cases hf with
  | assign | value | elseCondition => exact .inr (by simp)
  | thenCondition _ hb | loopCondition _ hb | labelledCondition _ _ _ hb => exact .inr hb.ne_nil
  | thenOnly | thenBlock | elseBlock | loopBlock | labelledBlock | block | statement
  | laterStatements | body | item | firstItem | laterItems => exact hm.elim
  | _ => exact .inl trivial

theorem Context.inner_or_ne_nil (h : Context pre post n k) (hn : n.Inner) :
    k.Inner ∨ post ≠ [] := by
  induction h with
  | here => exact .inl hn
  | inside _ hf ih =>
    rcases ih hn with hm | hne
    · exact (hf.inner_or_ne_nil hm).imp_right fun hne => List.append_ne_nil_of_right_ne_nil _ hne
    · exact .inr (List.append_ne_nil_of_left_ne_nil hne _)

/-- An expression in items starts with a token and goes before one. -/
theorem Part.Holds.exists_cons {e : Expr} {is : List Item} (h : Holds (.items is) pre mid post e) :
    (∃ t ts, mid = t :: ts) ∧ ∃ t ts, post = t :: ts := by
  obtain ⟨n, hn, his, hcontext⟩ := h
  have hstarts : n.Inner ∧ ∃ t ts, mid = t :: ts := by
    cases n with
    | expr e =>
      obtain ⟨t, ts, hmid, -⟩ := IsExpr.starts his
      exact ⟨trivial, t, ts, hmid⟩
    | sum e =>
      obtain ⟨t, ts, hmid, -⟩ := IsSum.starts his
      exact ⟨trivial, t, ts, hmid⟩
    | primary e =>
      obtain ⟨t, ts, hmid, -⟩ := IsPrimary.starts his
      exact ⟨trivial, t, ts, hmid⟩
    | _ => cases hn
  exact ⟨hstarts.2, List.exists_cons_of_ne_nil
    ((hcontext.inner_or_ne_nil hstarts.1).resolve_left id)⟩

/-! ## Expressions of a tree -/

theorem Expr.mem_exprs (e : Expr) : e ∈ e.exprs := by
  cases e <;> simp [Expr.exprs]

theorem Frame.exprs_subset (hf : Frame pre post m k) : m.exprs ⊆ k.exprs := by
  intro e he
  -- in every case the expressions of the outer part are listed with those of the inner part
  cases hf <;> simp only [Part.exprs, Item.exprs] at he ⊢ <;>
    simp [Expr.exprs, Expr.exprsOfAll, Stmt.exprs, Stmt.exprsOfAll, Item.exprs, he]

theorem Context.exprs_subset (h : Context pre post n k) : n.exprs ⊆ k.exprs := by
  induction h with
  | here => exact List.Subset.refl _
  | inside _ hf ih => exact List.Subset.trans ih hf.exprs_subset

theorem Part.Holds.mem_exprs {e : Expr} (h : k.Holds pre mid post e) : e ∈ k.exprs := by
  obtain ⟨n, hn, -, hcontext⟩ := h
  refine hcontext.exprs_subset ?_
  cases n with
  | expr | sum | primary =>
    cases hn
    exact Expr.mem_exprs e
  | _ => cases hn

mutual

theorem IsExpr.holdsIn : {ts : List Token} → {e : Expr} → IsExpr ts e →
    ∀ d ∈ e.exprs, Part.HoldsIn (.expr e) ts d
  | _, _, .sum h, d, hd => by simpa using (h.holdsIn d hd).frame .sum
  | _, _, .comparison hl ht hr, d, hd => by
    rw [Expr.exprs, List.mem_cons, List.mem_append] at hd
    obtain rfl | hd | hd := hd
    · exact .here rfl (IsExpr.comparison hl ht hr)
    · exact (hl.holdsIn d hd).frame (.comparisonLeft ht hr)
    · simpa using (hr.holdsIn d hd).frame (.comparisonRight hl ht)

theorem IsSum.holdsIn : {ts : List Token} → {e : Expr} → IsSum ts e →
    ∀ d ∈ e.exprs, Part.HoldsIn (.sum e) ts d
  | _, _, .primary h, d, hd => by simpa using (h.holdsIn d hd).frame .primary
  | _, _, .add hl ht hr, d, hd => by
    rw [Expr.exprs, List.mem_cons, List.mem_append] at hd
    obtain rfl | hd | hd := hd
    · exact .here rfl (IsSum.add hl ht hr)
    · exact (hl.holdsIn d hd).frame (.addLeft ht hr)
    · simpa using (hr.holdsIn d hd).frame (.addRight hl ht)

theorem IsPrimary.holdsIn : {ts : List Token} → {e : Expr} → IsPrimary ts e →
    ∀ d ∈ e.exprs, Part.HoldsIn (.primary e) ts d
  | _, _, .number ht hv, d, hd => by
    rw [Expr.exprs, List.mem_singleton] at hd
    obtain rfl := hd
    exact .here rfl (IsPrimary.number ht hv)
  | _, _, .var hx, d, hd => by
    rw [Expr.exprs, List.mem_singleton] at hd
    obtain rfl := hd
    exact .here rfl (IsPrimary.var hx)
  | _, _, .call hx ho ha hc, d, hd => by
    rw [Expr.exprs, List.mem_cons] at hd
    obtain rfl | hd := hd
    · exact .here rfl (IsPrimary.call hx ho ha hc)
    · exact (ha.holdsIn d hd).frame (.call hx ho hc)
  | _, _, .paren ho he hc, d, hd => (he.holdsIn d hd).frame (.paren ho hc)

theorem IsArguments.holdsIn : {ts : List Token} → {es : List Expr} → IsArguments ts es →
    ∀ d ∈ Expr.exprsOfAll es, Part.HoldsIn (.arguments es) ts d
  | _, _, .none, d, hd => by cases hd
  | _, _, .some h, d, hd => by simpa using (h.holdsIn d hd).frame .arguments

theorem IsMoreArguments.holdsIn : {ts : List Token} → {es : List Expr} → IsMoreArguments ts es →
    ∀ d ∈ Expr.exprsOfAll es, Part.HoldsIn (.moreArguments es) ts d
  | _, _, .one h, d, hd => by
    rw [Expr.exprsOfAll, Expr.exprsOfAll, List.append_nil] at hd
    simpa using (h.holdsIn d hd).frame .lastArgument
  | _, _, .more h hc hs, d, hd => by
    rw [Expr.exprsOfAll, List.mem_append] at hd
    obtain hd | hd := hd
    · exact (h.holdsIn d hd).frame (.argument hc hs)
    · simpa using (hs.holdsIn d hd).frame (.laterArguments h hc)

end

mutual

theorem IsStatement.holdsIn : {ts : List Token} → {s : Stmt} → IsStatement ts s →
    ∀ d ∈ s.exprs, Part.HoldsIn (.statement s) ts d
  | _, _, .assign hx ha he hs, d, hd => (he.holdsIn d hd).frame (.assign hx ha hs)
  | _, _, .ifThen hi hc ht, d, hd => by
    rw [Stmt.exprs, List.mem_append] at hd
    obtain hd | hd := hd
    · exact (hc.holdsIn d hd).frame (.thenCondition hi ht)
    · simpa using (ht.holdsIn d hd).frame (.thenOnly hi hc)
  | _, _, .ifElse hi hc ht hl he, d, hd => by
    rw [Stmt.exprs, List.mem_append, List.mem_append] at hd
    obtain hd | hd | hd := hd
    · exact (hc.holdsIn d hd).frame (.elseCondition hi ht hl he)
    · simpa using (ht.holdsIn d hd).frame (.thenBlock hi hc hl he)
    · simpa using (he.holdsIn d hd).frame (.elseBlock hi hc ht hl)
  | _, _, .loop hw hc hb, d, hd => by
    rw [Stmt.exprs, List.mem_append] at hd
    obtain hd | hd := hd
    · exact (hc.holdsIn d hd).frame (.loopCondition hw hb)
    · simpa using (hb.holdsIn d hd).frame (.loopBlock hw hc)
  | _, _, .labelled hx hk hw hc hb, d, hd => by
    rw [Stmt.exprs, List.mem_append] at hd
    obtain hd | hd := hd
    · exact (hc.holdsIn d hd).frame (.labelledCondition hx hk hw hb)
    · simpa using (hb.holdsIn d hd).frame (.labelledBlock hx hk hw hc)
  | _, _, .jump _ _, d, hd => by cases hd
  | _, _, .jumpTo _ _ _, d, hd => by cases hd
  | _, _, .expr he hs, d, hd => (he.holdsIn d hd).frame (.value hs)

theorem IsBlock.holdsIn : {ts : List Token} → {ss : List Stmt} → IsBlock ts ss →
    ∀ d ∈ Stmt.exprsOfAll ss, Part.HoldsIn (.block ss) ts d
  | _, _, .mk ho h hc, d, hd => (h.holdsIn d hd).frame (.block ho hc)

theorem IsStatements.holdsIn : {ts : List Token} → {ss : List Stmt} → IsStatements ts ss →
    ∀ d ∈ Stmt.exprsOfAll ss, Part.HoldsIn (.statements ss) ts d
  | _, _, .nil, d, hd => by cases hd
  | _, _, .cons h hs, d, hd => by
    rw [Stmt.exprsOfAll, List.mem_append] at hd
    obtain hd | hd := hd
    · exact (h.holdsIn d hd).frame (.statement hs)
    · simpa using (hs.holdsIn d hd).frame (.laterStatements h)

end

theorem IsItem.holdsIn {ts : List Token} {i : Item} (h : IsItem ts i) :
    ∀ d ∈ i.exprs, Part.HoldsIn (.item i) ts d := by
  intro d hd
  cases h with
  | mk hf hx ho hp hc hb =>
    cases hb with
    | none => cases hd
    | some h =>
      have hbody := (h.holdsIn d hd).frame .body
      simpa using hbody.frame (.item hf hx ho hp hc)

theorem IsItems.holdsIn {ts : List Token} {is : List Item} (h : IsItems ts is) :
    ∀ d ∈ is.flatMap Item.exprs, Part.HoldsIn (.items is) ts d := by
  induction h with
  | nil => exact List.forall_mem_nil _
  | cons hi hs ih =>
    rw [List.flatMap_cons, List.forall_mem_append]
    constructor
    · exact fun d hd => (hi.holdsIn d hd).frame (.firstItem hs)
    · exact fun d hd => by simpa using (ih d hd).frame (.laterItems hi)

/-- The expressions in the tree of a program are those that some of its tokens are read as. -/
theorem mem_exprs_iff {ts : List Token} {p : Program} (h : IsProgram ts p) {e : Expr} :
    e ∈ p.exprs ↔ Part.HoldsIn (.items p.items) ts e := by
  constructor
  · exact IsItems.holdsIn h e
  · rintro ⟨pre, mid, post, -, he⟩
    exact he.mem_exprs

end Grammar

end Looplet
