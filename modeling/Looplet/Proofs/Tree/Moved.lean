import Looplet.Tree.Parser

/-!
# Moved positions

Tokens and trees whose positions are moved by a map, with everything else as it is (`Expr.moved`,
`Stmt.moved`, `Item.moved`, `Program.moved`).
-/

namespace Looplet

variable {f : Position → Position}

/-- The token at another position. -/
def Token.moved (f : Position → Position) (t : Token) : Token :=
  { t with position := f t.position }

namespace Token

@[simp] theorem kind_moved (t : Token) : (t.moved f).kind = t.kind := rfl

@[simp] theorem value?_moved (t : Token) : (t.moved f).value? = t.value? := rfl

@[simp] theorem moved_id : Token.moved id = id := rfl

end Token

namespace Tree

mutual

/-- The expression at other positions. -/
def Expr.moved (f : Position → Position) : Expr → Expr
  | int v => int v
  | var x p => var x (f p)
  | binary op l r => binary op (l.moved f) (r.moved f)
  | call g args p => call g (movedAll f args) (f p)

/-- Expressions at other positions. -/
def Expr.movedAll (f : Position → Position) : List Expr → List Expr
  | [] => []
  | e :: es => e.moved f :: movedAll f es

end

mutual

/-- The statement at other positions. -/
def Stmt.moved (f : Position → Position) : Stmt → Stmt
  | assign x e p => assign x (e.moved f) (f p)
  | ifThen c body => ifThen (c.moved f) (movedAll f body)
  | ifElse c t e => ifElse (c.moved f) (movedAll f t) (movedAll f e)
  | loop label? c body p => loop label? (c.moved f) (movedAll f body) (f p)
  | jump j label? p => jump j label? (f p)
  | expr e => expr (e.moved f)

/-- Statements at other positions. -/
def Stmt.movedAll (f : Position → Position) : List Stmt → List Stmt
  | [] => []
  | s :: ss => s.moved f :: movedAll f ss

end

/-- The item at other positions. -/
def Item.moved (f : Position → Position) (i : Item) : Item :=
  ⟨i.name, i.params, f i.position, i.body?.map (Stmt.movedAll f)⟩

@[simp] theorem Item.name_moved (i : Item) : (i.moved f).name = i.name := rfl

@[simp] theorem Item.isDeclaration_moved (i : Item) :
    (i.moved f).isDeclaration = i.isDeclaration := by
  simp [isDeclaration, moved]

/-! ## Positions that stay -/

mutual

@[simp] theorem Expr.moved_id : (e : Expr) → e.moved id = e
  | .int v => rfl
  | .var x p => rfl
  | .binary op l r => by rw [moved, l.moved_id, r.moved_id]
  | .call g args p => by rw [moved, Expr.movedAll_id args, id_eq]

@[simp] theorem Expr.movedAll_id : (es : List Expr) → movedAll id es = es
  | [] => rfl
  | e :: es => by rw [movedAll, e.moved_id, Expr.movedAll_id es]

end

mutual

@[simp] theorem Stmt.moved_id : (s : Stmt) → s.moved id = s
  | .assign x e p => by rw [moved, e.moved_id, id_eq]
  | .ifThen c body => by rw [moved, c.moved_id, Stmt.movedAll_id body]
  | .ifElse c t e => by rw [moved, c.moved_id, Stmt.movedAll_id t, Stmt.movedAll_id e]
  | .loop label? c body p => by rw [moved, c.moved_id, Stmt.movedAll_id body, id_eq]
  | .jump j label? p => rfl
  | .expr e => by rw [moved, e.moved_id]

@[simp] theorem Stmt.movedAll_id : (ss : List Stmt) → movedAll id ss = ss
  | [] => rfl
  | s :: ss => by rw [movedAll, s.moved_id, Stmt.movedAll_id ss]

end

@[simp] theorem Item.moved_id (i : Item) : i.moved id = i := by
  cases i with
  | mk name params position body? => cases body? <;> simp [moved]

/-! ## Positions that are moved twice -/

section Twice

variable {g : Position → Position}

mutual

@[simp] theorem Expr.moved_moved : (e : Expr) → (e.moved f).moved g = e.moved (g ∘ f)
  | .int v => rfl
  | .var x p => rfl
  | .binary op l r => by simp only [moved, l.moved_moved, r.moved_moved]
  | .call h args p => by simp only [moved, Expr.movedAll_movedAll args, Function.comp_apply]

@[simp] theorem Expr.movedAll_movedAll : (es : List Expr) →
    movedAll g (movedAll f es) = movedAll (g ∘ f) es
  | [] => rfl
  | e :: es => by simp only [movedAll, e.moved_moved, Expr.movedAll_movedAll es]

end

mutual

@[simp] theorem Stmt.moved_moved : (s : Stmt) → (s.moved f).moved g = s.moved (g ∘ f)
  | .assign x e p => by simp only [moved, e.moved_moved, Function.comp_apply]
  | .ifThen c body => by simp only [moved, c.moved_moved, Stmt.movedAll_movedAll body]
  | .ifElse c t e => by
    simp only [moved, c.moved_moved, Stmt.movedAll_movedAll t, Stmt.movedAll_movedAll e]
  | .loop label? c body p => by
    simp only [moved, c.moved_moved, Stmt.movedAll_movedAll body, Function.comp_apply]
  | .jump j label? p => rfl
  | .expr e => by simp only [moved, e.moved_moved]

@[simp] theorem Stmt.movedAll_movedAll : (ss : List Stmt) →
    movedAll g (movedAll f ss) = movedAll (g ∘ f) ss
  | [] => rfl
  | s :: ss => by simp only [movedAll, s.moved_moved, Stmt.movedAll_movedAll ss]

end

@[simp] theorem Item.moved_moved (i : Item) : (i.moved f).moved g = i.moved (g ∘ f) := by
  cases i with
  | mk name params position body? => cases body? <;> simp [moved]

end Twice

end Tree

/-- The program at other positions. -/
def Program.moved (f : Position → Position) (p : Program) : Program :=
  ⟨p.items.map (Tree.Item.moved f)⟩

@[simp] theorem Program.moved_id (p : Program) : p.moved id = p := by
  have hid : Tree.Item.moved id = id := funext Tree.Item.moved_id
  simp [moved, hid]

@[simp] theorem Program.moved_moved {g : Position → Position} (p : Program) :
    (p.moved f).moved g = p.moved (g ∘ f) := by
  simp [moved, Function.comp_def]

/-- The mismatch at another position. -/
def Parser.Mismatch.moved (f : Position → Position) (m : Mismatch) : Mismatch :=
  ⟨m.expected, m.found?.map (Token.moved f)⟩

/-- The error at another position. -/
def Parser.Error.moved (f : Position → Position) : Error → Error
  | unterminated => unterminated
  | unexpected x t => unexpected x (t.moved f)

@[simp] theorem Parser.Error.moved_id (e : Error) : e.moved id = e := by
  cases e <;> rfl

end Looplet
