import Looplet.Compile
import Looplet.Proofs.Token.Order
import Looplet.Proofs.Tree.Language

/-!
# The tokens that nodes are named after

A node that keeps a position keeps that of a token of its own, its anchor: the name of a variable, a
call or an assigned variable, the keyword of an item or a jump, the label of a loop or else its
keyword. A walk over a tree meets the anchors in the order of the text: they are some of its tokens,
in the same order (`IsProgram.anchors`). So in the tree of a text their positions increase
(`ordered_anchors`).
-/

namespace Looplet

namespace Tree

mutual

/-- The anchors in an expression. -/
def Expr.anchors : Expr → List Token
  | .int _ => []
  | .var x p => [⟨.name, x, p⟩]
  | .binary _ l r => l.anchors ++ r.anchors
  | .call f args p => ⟨.name, f, p⟩ :: Expr.anchorsOfAll args

/-- The anchors in expressions. -/
def Expr.anchorsOfAll : List Expr → List Token
  | [] => []
  | e :: es => e.anchors ++ Expr.anchorsOfAll es

end

/-- The anchor of a jump. -/
def jumpAnchor (j : Jump) (p : Position) : Token :=
  match j with
  | .leave => ⟨.breakWord, "break", p⟩
  | .again => ⟨.continueWord, "continue", p⟩

/-- The anchor of a loop. -/
def loopAnchor (label? : Option String) (p : Position) : Token :=
  match label? with
  | none => ⟨.whileWord, "while", p⟩
  | some label => ⟨.name, label, p⟩

mutual

/-- The anchors in a statement. -/
def Stmt.anchors : Stmt → List Token
  | .assign x e p => ⟨.name, x, p⟩ :: e.anchors
  | .ifThen c body => c.anchors ++ Stmt.anchorsOfAll body
  | .ifElse c t e => c.anchors ++ (Stmt.anchorsOfAll t ++ Stmt.anchorsOfAll e)
  | .loop label? c body p => loopAnchor label? p :: (c.anchors ++ Stmt.anchorsOfAll body)
  | .jump j _ p => [jumpAnchor j p]
  | .expr e => e.anchors

/-- The anchors in statements. -/
def Stmt.anchorsOfAll : List Stmt → List Token
  | [] => []
  | s :: ss => s.anchors ++ Stmt.anchorsOfAll ss

end

/-- The anchors in an item. -/
def Item.anchors (i : Item) : List Token :=
  ⟨.funcWord, "func", i.position⟩ :: Stmt.anchorsOfAll (i.body?.getD [])

end Tree

/-- The anchors in a program. -/
def Program.anchors (p : Program) : List Token :=
  p.items.flatMap Tree.Item.anchors

namespace Grammar

open Looplet.Tree (Expr Stmt Item)

theorem token_eq {t : Token} {k : Token.Kind} (h : t.kind = k) :
    (⟨k, t.text, t.position⟩ : Token) = t := by
  subst h
  rfl

theorem keyword_eq {t : Token} {k : Token.Kind} {s : String} (h : t.kind = k)
    (hs : k.spelling? = some s) (ht : t.Spelled) : (⟨k, s, t.position⟩ : Token) = t := by
  subst h
  rw [← ht s hs]

/-! ## Expressions -/

mutual

theorem IsExpr.anchors : {ts : List Token} → {e : Expr} → IsExpr ts e → e.anchors.Sublist ts
  | _, _, .sum h => h.anchors
  | _, _, .comparison hl _ hr => by
    rw [Expr.anchors]
    exact hl.anchors.append (hr.anchors.cons _)

theorem IsSum.anchors : {ts : List Token} → {e : Expr} → IsSum ts e → e.anchors.Sublist ts
  | _, _, .primary h => h.anchors
  | _, _, .add hl _ hr => by
    rw [Expr.anchors]
    exact hl.anchors.append (hr.anchors.cons _)

theorem IsPrimary.anchors : {ts : List Token} → {e : Expr} → IsPrimary ts e →
    e.anchors.Sublist ts
  | _, _, .number _ _ => by
    rw [Expr.anchors]
    exact List.nil_sublist _
  | _, _, .var hx => by
    rw [Expr.anchors, token_eq hx]
  | _, _, .call hx _ ha _ => by
    rw [Expr.anchors, token_eq hx]
    exact ((ha.anchors.trans (List.sublist_append_left ..)).cons _).cons_cons _
  | _, _, .paren _ he _ => (he.anchors.trans (List.sublist_append_left ..)).cons _

theorem IsArguments.anchors : {ts : List Token} → {es : List Expr} → IsArguments ts es →
    (Expr.anchorsOfAll es).Sublist ts
  | _, _, .none => List.nil_sublist _
  | _, _, .some h => h.anchors

theorem IsMoreArguments.anchors : {ts : List Token} → {es : List Expr} → IsMoreArguments ts es →
    (Expr.anchorsOfAll es).Sublist ts
  | _, _, .one h => by
    rw [Expr.anchorsOfAll, Expr.anchorsOfAll, List.append_nil]
    exact h.anchors
  | _, _, .more h _ hs => by
    rw [Expr.anchorsOfAll]
    exact h.anchors.append (hs.anchors.cons _)

end

/-! ## Statements -/

theorem jumpAnchor_eq {k : Token} {j : Jump} (hk : jump? k.kind = some j) (ht : k.Spelled) :
    Tree.jumpAnchor j k.position = k := by
  unfold jump? at hk
  split at hk
  · next h =>
    cases hk
    exact keyword_eq h rfl ht
  · next h =>
    cases hk
    exact keyword_eq h rfl ht
  · cases hk

mutual

theorem IsStatement.anchors : {ts : List Token} → {s : Stmt} → IsStatement ts s →
    (∀ t ∈ ts, t.Spelled) → s.anchors.Sublist ts
  | _, _, .assign hx _ he _, _ => by
    rw [Stmt.anchors, token_eq hx]
    exact ((he.anchors.trans (List.sublist_append_left ..)).cons _).cons_cons _
  | _, _, .ifThen _ hc ht, h => by
    rw [List.forall_mem_cons, List.forall_mem_append] at h
    rw [Stmt.anchors]
    exact (hc.anchors.append (ht.anchors h.2.2)).cons _
  | _, _, .ifElse _ hc ht _ he, h => by
    rw [List.forall_mem_cons, List.forall_mem_append, List.forall_mem_append,
      List.forall_mem_cons] at h
    rw [Stmt.anchors]
    exact (hc.anchors.append ((ht.anchors h.2.2.1).append ((he.anchors h.2.2.2.2).cons _))).cons _
  | _, _, .loop hw hc hb, h => by
    rw [List.forall_mem_cons, List.forall_mem_append] at h
    rw [Stmt.anchors, Tree.loopAnchor, keyword_eq hw rfl h.1]
    exact (hc.anchors.append (hb.anchors h.2.2)).cons_cons _
  | _, _, .labelled hx _ _ hc hb, h => by
    rw [List.forall_mem_cons, List.forall_mem_cons, List.forall_mem_cons,
      List.forall_mem_append] at h
    rw [Stmt.anchors, Tree.loopAnchor, token_eq hx]
    exact (((hc.anchors.append (hb.anchors h.2.2.2.2)).cons _).cons _).cons_cons _
  | _, _, .jump hk _, h => by
    rw [List.forall_mem_cons] at h
    rw [Stmt.anchors, jumpAnchor_eq hk h.1]
    exact (List.nil_sublist _).cons_cons _
  | _, _, .jumpTo hk _ _, h => by
    rw [List.forall_mem_cons] at h
    rw [Stmt.anchors, jumpAnchor_eq hk h.1]
    exact (List.nil_sublist _).cons_cons _
  | _, _, .expr he _, _ => by
    rw [Stmt.anchors]
    exact he.anchors.trans (List.sublist_append_left ..)

theorem IsBlock.anchors : {ts : List Token} → {b : List Stmt} → IsBlock ts b →
    (∀ t ∈ ts, t.Spelled) → (Stmt.anchorsOfAll b).Sublist ts
  | _, _, .mk _ hs _, h => by
    rw [List.forall_mem_cons, List.forall_mem_append] at h
    exact ((hs.anchors h.2.1).trans (List.sublist_append_left ..)).cons _

theorem IsStatements.anchors : {ts : List Token} → {ss : List Stmt} → IsStatements ts ss →
    (∀ t ∈ ts, t.Spelled) → (Stmt.anchorsOfAll ss).Sublist ts
  | _, _, .nil, _ => List.nil_sublist _
  | _, _, .cons hs hss, h => by
    rw [List.forall_mem_append] at h
    rw [Stmt.anchorsOfAll]
    exact (hs.anchors h.1).append (hss.anchors h.2)

end

/-! ## Programs -/

theorem IsItem.anchors {ts : List Token} {i : Item} (h : IsItem ts i) (hts : ∀ t ∈ ts, t.Spelled) :
    i.anchors.Sublist ts := by
  cases h with
  | @mk f x o c ps bs params b hf hx ho hp hc hb =>
    simp only [List.forall_mem_cons, List.forall_mem_append] at hts
    obtain ⟨hspelled, -, -, -, -, hbs⟩ := hts
    have hbody : (Stmt.anchorsOfAll (b.getD [])).Sublist bs := by
      cases hb with
      | none => exact List.nil_sublist _
      | some hb => exact hb.anchors hbs
    rw [Item.anchors, keyword_eq hf rfl hspelled]
    exact (((hbody.cons c).trans (List.sublist_append_right ps _)).cons o |>.cons x).cons_cons f

theorem IsItems.anchors {ts : List Token} {is : List Item} (h : IsItems ts is)
    (hts : ∀ t ∈ ts, t.Spelled) : (is.flatMap Item.anchors).Sublist ts := by
  induction h with
  | nil => exact List.nil_sublist _
  | cons hi _ ih =>
    rw [List.forall_mem_append] at hts
    rw [List.flatMap_cons]
    exact (hi.anchors hts.1).append (ih hts.2)

/-- The anchors in a program are some of its tokens, in the same order. -/
theorem IsProgram.anchors {ts : List Token} {p : Program} (h : IsProgram ts p)
    (hts : ∀ t ∈ ts, t.Spelled) : p.anchors.Sublist ts :=
  IsItems.anchors h hts

end Grammar

/-- A text that is read as a program has tokens, and those before the ending one are that program in
the grammar. -/
theorem exists_tokens_of_parse {src : String} {p : Program} (h : parse src = .ok p) :
    ∃ ts e, tokenize src = .ok (ts ++ [e]) ∧ e.kind = .ending ∧ Grammar.IsProgram ts p := by
  unfold parse at h
  cases hts : tokenize src with
  | error e => simp [hts] at h
  | ok ts =>
    obtain ⟨body, e, rfl, hbody, he⟩ := exists_ending_of_tokenize hts
    have hterminated : Parser.Terminated (body ++ [e]) := ⟨e, by simp, he⟩
    cases hp : Program.ofTokens (body ++ [e]) with
    | error e' => simp [hts, hp] at h
    | ok q =>
      simp only [hts, hp, Except.ok.injEq] at h
      subst h
      rw [Parser.ofTokens_eq_ok hterminated, Parser.items_eq_ok hbody he] at hp
      exact ⟨body, e, rfl, he, hp⟩

/-- In the tree of a text the positions of anchors increase. -/
theorem ordered_anchors {src : String} {p : Program} (h : parse src = .ok p) :
    Ordered p.anchors := by
  obtain ⟨ts, e, hts, -, hp⟩ := exists_tokens_of_parse h
  have hspelled := spelled_of_tokenize hts
  rw [List.forall_mem_append] at hspelled
  have hsub := hp.anchors hspelled.1
  exact (ordered_of_tokenize hts).sublist (hsub.trans (List.sublist_append_left ..))

end Looplet
