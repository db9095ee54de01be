import Looplet.Proofs.Token.Genuine
import Looplet.Proofs.Tree.Grammar
import Looplet.Proofs.Tree.Moved

/-!
# Trees that a text can say

A tree may hold any text for a name and any word for a number. A source text can say those that have
names for names and numbers that are not negative (`Program.Expressible`), whatever their positions:
the grammar takes names and numbers off its tokens, and the tokens of a text are genuine
(`IsProgram.expressible`).
-/

namespace Looplet

namespace Tree

mutual

/-- Names are names and numbers are not negative. No number is larger than 2^63 - 1. -/
def Expr.Expressible : Expr → Prop
  | int v => 0 ≤ v.toInt
  | var x _ => IsName x
  | binary _ l r => l.Expressible ∧ r.Expressible
  | call f args _ => IsName f ∧ Expr.AllExpressible args

/-- All of the expressions are expressible. -/
def Expr.AllExpressible : List Expr → Prop
  | [] => True
  | e :: es => e.Expressible ∧ Expr.AllExpressible es

end

mutual

/-- Names, labels among them, are names, and numbers are not negative. -/
def Stmt.Expressible : Stmt → Prop
  | assign x e _ => IsName x ∧ e.Expressible
  | ifThen c body => c.Expressible ∧ Stmt.AllExpressible body
  | ifElse c t e => c.Expressible ∧ Stmt.AllExpressible t ∧ Stmt.AllExpressible e
  | loop label? c body _ => (∀ x ∈ label?, IsName x) ∧ c.Expressible ∧ Stmt.AllExpressible body
  | jump _ label? _ => ∀ x ∈ label?, IsName x
  | expr e => e.Expressible

/-- All of the statements are expressible. -/
def Stmt.AllExpressible : List Stmt → Prop
  | [] => True
  | s :: ss => s.Expressible ∧ Stmt.AllExpressible ss

end

/-- Names, parameters among them, are names, and the body is expressible if there is one. -/
def Item.Expressible (i : Item) : Prop :=
  IsName i.name ∧ (∀ x ∈ i.params, IsName x) ∧ ∀ body ∈ i.body?, Stmt.AllExpressible body

/-! ## Positions -/

variable {f : Position → Position}

mutual

theorem Expr.expressible_moved : (e : Expr) → ((e.moved f).Expressible ↔ e.Expressible)
  | .int _ => Iff.rfl
  | .var _ _ => Iff.rfl
  | .binary _ l r => by
    rw [moved, Expressible, Expressible, l.expressible_moved, r.expressible_moved]
  | .call _ args _ => by rw [moved, Expressible, Expressible, Expr.allExpressible_moved args]

theorem Expr.allExpressible_moved : (es : List Expr) →
    (Expr.AllExpressible (Expr.movedAll f es) ↔ Expr.AllExpressible es)
  | [] => Iff.rfl
  | e :: es => by
    rw [movedAll, AllExpressible, AllExpressible, e.expressible_moved, Expr.allExpressible_moved es]

end

mutual

theorem Stmt.expressible_moved : (s : Stmt) → ((s.moved f).Expressible ↔ s.Expressible)
  | .assign _ e _ => by rw [moved, Expressible, Expressible, e.expressible_moved]
  | .ifThen c body => by
    rw [moved, Expressible, Expressible, c.expressible_moved, Stmt.allExpressible_moved body]
  | .ifElse c t e => by
    rw [moved, Expressible, Expressible, c.expressible_moved, Stmt.allExpressible_moved t,
      Stmt.allExpressible_moved e]
  | .loop _ c body _ => by
    rw [moved, Expressible, Expressible, c.expressible_moved, Stmt.allExpressible_moved body]
  | .jump _ _ _ => Iff.rfl
  | .expr e => by rw [moved, Expressible, Expressible, e.expressible_moved]

theorem Stmt.allExpressible_moved : (ss : List Stmt) →
    (Stmt.AllExpressible (Stmt.movedAll f ss) ↔ Stmt.AllExpressible ss)
  | [] => Iff.rfl
  | s :: ss => by
    rw [movedAll, AllExpressible, AllExpressible, s.expressible_moved, Stmt.allExpressible_moved ss]

end

theorem Item.expressible_moved (i : Item) : (i.moved f).Expressible ↔ i.Expressible := by
  cases i with
  | mk name params position body? =>
    cases body? <;> simp [moved, Expressible, Stmt.allExpressible_moved]

end Tree

/-- All items are expressible. -/
def Program.Expressible (p : Program) : Prop :=
  ∀ i ∈ p.items, i.Expressible

theorem Program.expressible_moved {f : Position → Position} (p : Program) :
    (p.moved f).Expressible ↔ p.Expressible := by
  simp [Expressible, moved, Tree.Item.expressible_moved]

/-! ## Trees of genuine tokens -/

namespace Grammar

open Looplet.Tree (Expr Stmt Item)

mutual

theorem IsExpr.expressible : {ts : List Token} → {e : Expr} → IsExpr ts e →
    (∀ t ∈ ts, t.Genuine) → e.Expressible
  | _, _, .sum h, hts => h.expressible hts
  | _, _, .comparison hl _ hr, hts => by
    rw [List.forall_mem_append, List.forall_mem_cons] at hts
    exact ⟨hl.expressible hts.1, hr.expressible hts.2.2⟩

theorem IsSum.expressible : {ts : List Token} → {e : Expr} → IsSum ts e →
    (∀ t ∈ ts, t.Genuine) → e.Expressible
  | _, _, .primary h, hts => h.expressible hts
  | _, _, .add hl _ hr, hts => by
    rw [List.forall_mem_append, List.forall_mem_cons] at hts
    exact ⟨hl.expressible hts.1, hr.expressible hts.2.2⟩

theorem IsPrimary.expressible : {ts : List Token} → {e : Expr} → IsPrimary ts e →
    (∀ t ∈ ts, t.Genuine) → e.Expressible
  | _, _, .number ht hv, hts => (hts _ (List.mem_cons_self ..)).value_nonneg ht hv
  | _, _, .var hx, hts => (hts _ (List.mem_cons_self ..)).isName hx
  | _, _, .call hx _ ha _, hts => by
    rw [List.forall_mem_cons, List.forall_mem_cons, List.forall_mem_append] at hts
    exact ⟨hts.1.isName hx, ha.expressible hts.2.2.1⟩
  | _, _, .paren _ he _, hts => by
    rw [List.forall_mem_cons, List.forall_mem_append] at hts
    exact he.expressible hts.2.1

theorem IsArguments.expressible : {ts : List Token} → {es : List Expr} → IsArguments ts es →
    (∀ t ∈ ts, t.Genuine) → Expr.AllExpressible es
  | _, _, .none, _ => trivial
  | _, _, .some h, hts => h.expressible hts

theorem IsMoreArguments.expressible : {ts : List Token} → {es : List Expr} →
    IsMoreArguments ts es → (∀ t ∈ ts, t.Genuine) → Expr.AllExpressible es
  | _, _, .one h, hts => ⟨h.expressible hts, trivial⟩
  | _, _, .more h _ hs, hts => by
    rw [List.forall_mem_append, List.forall_mem_cons] at hts
    exact ⟨h.expressible hts.1, hs.expressible hts.2.2⟩

end

mutual

theorem IsStatement.expressible : {ts : List Token} → {s : Stmt} → IsStatement ts s →
    (∀ t ∈ ts, t.Genuine) → s.Expressible
  | _, _, .assign hx _ he _, hts => by
    rw [List.forall_mem_cons, List.forall_mem_cons, List.forall_mem_append] at hts
    exact ⟨hts.1.isName hx, he.expressible hts.2.2.1⟩
  | _, _, .ifThen _ hc ht, hts => by
    rw [List.forall_mem_cons, List.forall_mem_append] at hts
    exact ⟨hc.expressible hts.2.1, ht.expressible hts.2.2⟩
  | _, _, .ifElse _ hc ht _ he, hts => by
    rw [List.forall_mem_cons, List.forall_mem_append, List.forall_mem_append,
      List.forall_mem_cons] at hts
    exact ⟨hc.expressible hts.2.1, ht.expressible hts.2.2.1, he.expressible hts.2.2.2.2⟩
  | _, _, .loop _ hc hb, hts => by
    rw [List.forall_mem_cons, List.forall_mem_append] at hts
    exact ⟨nofun, hc.expressible hts.2.1, hb.expressible hts.2.2⟩
  | _, _, .labelled hx _ _ hc hb, hts => by
    rw [List.forall_mem_cons, List.forall_mem_cons, List.forall_mem_cons,
      List.forall_mem_append] at hts
    refine ⟨?_, hc.expressible hts.2.2.2.1, hb.expressible hts.2.2.2.2⟩
    rintro _ ⟨⟩
    exact hts.1.isName hx
  | _, _, .jump _ _, _ => nofun
  | _, _, .jumpTo _ hx _, hts => by
    rw [List.forall_mem_cons, List.forall_mem_cons] at hts
    rintro _ ⟨⟩
    exact hts.2.1.isName hx
  | _, _, .expr he _, hts => by
    rw [List.forall_mem_append] at hts
    exact he.expressible hts.1

theorem IsBlock.expressible : {ts : List Token} → {b : List Stmt} → IsBlock ts b →
    (∀ t ∈ ts, t.Genuine) → Stmt.AllExpressible b
  | _, _, .mk _ h _, hts => by
    rw [List.forall_mem_cons, List.forall_mem_append] at hts
    exact h.expressible hts.2.1

theorem IsStatements.expressible : {ts : List Token} → {ss : List Stmt} → IsStatements ts ss →
    (∀ t ∈ ts, t.Genuine) → Stmt.AllExpressible ss
  | _, _, .nil, _ => trivial
  | _, _, .cons h hs, hts => by
    rw [List.forall_mem_append] at hts
    exact ⟨h.expressible hts.1, hs.expressible hts.2⟩

end

theorem IsNames.isName {ts : List Token} {xs : List String} (h : IsNames ts xs)
    (hts : ∀ t ∈ ts, t.Genuine) : ∀ x ∈ xs, IsName x := by
  induction h with
  | one hx =>
    rw [List.forall_mem_singleton] at hts ⊢
    exact hts.isName hx
  | more hx _ _ ih =>
    rw [List.forall_mem_cons, List.forall_mem_cons] at hts
    rw [List.forall_mem_cons]
    exact ⟨hts.1.isName hx, ih hts.2.2⟩

theorem IsItem.expressible {ts : List Token} {i : Item} (h : IsItem ts i)
    (hts : ∀ t ∈ ts, t.Genuine) : i.Expressible := by
  cases h with
  | @mk f x o c ps bs params b hf hx ho hp hc hb =>
    simp only [List.forall_mem_cons, List.forall_mem_append] at hts
    obtain ⟨-, hname, -, hps, -, hbs⟩ := hts
    refine ⟨hname.isName hx, ?_, ?_⟩
    · cases hp with
      | none => exact List.forall_mem_nil _
      | some h => exact h.isName hps
    · cases hb with
      | none => rintro _ ⟨⟩
      | some h =>
        rintro _ ⟨⟩
        exact h.expressible hbs

theorem IsItems.expressible {ts : List Token} {is : List Item} (h : IsItems ts is)
    (hts : ∀ t ∈ ts, t.Genuine) : ∀ i ∈ is, i.Expressible := by
  induction h with
  | nil => exact List.forall_mem_nil _
  | cons hi _ ih =>
    rw [List.forall_mem_append] at hts
    exact List.forall_mem_cons.mpr ⟨hi.expressible hts.1, ih hts.2⟩

/-- A program of genuine tokens is expressible. -/
theorem IsProgram.expressible {ts : List Token} {p : Program} (h : IsProgram ts p)
    (hts : ∀ t ∈ ts, t.Genuine) : p.Expressible :=
  IsItems.expressible h hts

end Grammar

end Looplet
