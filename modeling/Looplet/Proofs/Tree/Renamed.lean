import Looplet.Proofs.Tree.Rules
import Mathlib.Data.Set.Function

/-!
# Renamed variables and labels

Trees whose variables and labels have other names, each role with a map of its own
(`Stmt.renamed`, `Item.renamed`). Names of functions stay, also where a variable or a label has the
same name. Which names occur is read off the marks of a body (`Item.vars`, `Item.labels`).
-/

namespace Looplet

/-- The variable that a mark names. -/
def Mark.variable? : Mark → Option String
  | use x _ => some x
  | assigned x => some x
  | _ => none

/-- The label that a mark names. -/
def Mark.label? : Mark → Option String
  | jump _ label? _ _ => label?
  | loop label? _ _ => label?
  | _ => none

namespace Tree

variable {ρ σ : String → String}

mutual

/-- The expression with other names of variables. -/
def Expr.renamed (ρ : String → String) : Expr → Expr
  | int v => int v
  | var x p => var (ρ x) p
  | binary op l r => binary op (l.renamed ρ) (r.renamed ρ)
  | call f args p => call f (renamedAll ρ args) p

/-- Expressions with other names of variables. -/
def Expr.renamedAll (ρ : String → String) : List Expr → List Expr
  | [] => []
  | e :: es => e.renamed ρ :: renamedAll ρ es

end

mutual

/-- The statement with other names of variables and other labels. -/
def Stmt.renamed (ρ σ : String → String) : Stmt → Stmt
  | assign x e p => assign (ρ x) (e.renamed ρ) p
  | ifThen c body => ifThen (c.renamed ρ) (renamedAll ρ σ body)
  | ifElse c t e => ifElse (c.renamed ρ) (renamedAll ρ σ t) (renamedAll ρ σ e)
  | loop label? c body p => loop (label?.map σ) (c.renamed ρ) (renamedAll ρ σ body) p
  | jump j label? p => jump j (label?.map σ) p
  | expr e => expr (e.renamed ρ)

/-- Statements with other names of variables and other labels. -/
def Stmt.renamedAll (ρ σ : String → String) : List Stmt → List Stmt
  | [] => []
  | s :: ss => s.renamed ρ σ :: renamedAll ρ σ ss

end

namespace Item

/-- The item with other names of variables, parameters included, and other labels. -/
def renamed (ρ σ : String → String) (i : Item) : Item :=
  ⟨i.name, i.params.map ρ, i.position, i.body?.map (Stmt.renamedAll ρ σ)⟩

/-- What the body of an item says of names. -/
def marks (i : Item) : List Mark :=
  i.body?.elim [] (Stmt.marksOfAll [])

/-- The names of variables in an item, its parameters included. -/
def vars (i : Item) : List String :=
  i.params ++ i.marks.filterMap Mark.variable?

/-- The labels in an item. -/
def labels (i : Item) : List String :=
  i.marks.filterMap Mark.label?

@[simp] theorem name_renamed (i : Item) : (i.renamed ρ σ).name = i.name := rfl

@[simp] theorem isDeclaration_renamed (i : Item) :
    (i.renamed ρ σ).isDeclaration = i.isDeclaration := by
  simp [isDeclaration, renamed]

end Item

theorem Expr.length_renamedAll (es : List Expr) : (Expr.renamedAll ρ es).length = es.length := by
  induction es with
  | nil => rfl
  | cons e es ih => rw [Expr.renamedAll, List.length_cons, List.length_cons, ih]

end Tree

/-! ## Names in marks -/

/-- The variables and labels that marks name are among the given ones. -/
def NamesIn (V L : Set String) (ms : List Mark) : Prop :=
  ∀ m ∈ ms, (∀ x ∈ m.variable?, x ∈ V) ∧ ∀ label ∈ m.label?, label ∈ L

section NamesIn

variable {V L : Set String} {m : Mark} {ms ms' : List Mark}

@[simp] theorem namesIn_cons : NamesIn V L (m :: ms) ↔
    ((∀ x ∈ m.variable?, x ∈ V) ∧ ∀ label ∈ m.label?, label ∈ L) ∧ NamesIn V L ms :=
  List.forall_mem_cons

@[simp] theorem namesIn_append : NamesIn V L (ms ++ ms') ↔ NamesIn V L ms ∧ NamesIn V L ms' :=
  List.forall_mem_append

theorem NamesIn.of_assignedIn (h : NamesIn V L ms) : ∀ x ∈ assignedIn ms, x ∈ V := by
  intro x hx
  exact (h _ (mem_assignedIn.mp hx)).1 x rfl

end NamesIn

/-- The names in an item are among its variables and labels. -/
theorem Tree.Item.namesIn_marks (i : Item) :
    NamesIn {x | x ∈ i.vars} {label | label ∈ i.labels} i.marks := by
  intro m hm
  refine ⟨fun x hx => ?_, fun label hlabel => ?_⟩
  · exact List.mem_append_right _ (List.mem_filterMap.mpr ⟨m, hm, hx⟩)
  · exact List.mem_filterMap.mpr ⟨m, hm, hlabel⟩

end Looplet
