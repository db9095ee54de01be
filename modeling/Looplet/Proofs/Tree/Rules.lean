import Looplet.Tree

/-!
# The rules of names

What a body says of names is read off its text from the first character to the last
(`Stmt.marksOfAll`): uses of variables, assignments as they end, calls, jumps and loops. The rules
are about these marks and nothing else (`ValidBody`): a variable must be a parameter or assigned in
a statement that ends before it, on whatever way of control; jumps and labels go by the loops
around. `Admitted` is the same reading mark by mark, for any list of names known from before.
-/

namespace Looplet

/-- What a place in the text of a body says of names. A jump and a loop come with the labels of the
loops around them, the innermost first. -/
inductive Mark where
  | use (name : String) (position : Position)
  | assigned (name : String)
  | call (name : String) (args : Nat) (position : Position)
  | jump (jump : Jump) (label? : Option String) (around : List (Option String))
    (position : Position)
  | loop (label? : Option String) (around : List (Option String)) (position : Position)

namespace Tree

mutual

/-- The marks of an expression, in the order of its text. -/
def Expr.marks : Expr → List Mark
  | .int _ => []
  | .var x p => [.use x p]
  | .binary _ l r => l.marks ++ r.marks
  | .call f args p => .call f args.length p :: Expr.marksOfAll args

/-- The marks of expressions. -/
def Expr.marksOfAll : List Expr → List Mark
  | [] => []
  | e :: es => e.marks ++ Expr.marksOfAll es

end

mutual

/-- The marks of a statement inside loops with the given labels, in the order of its text. An
assignment is marked where it ends. -/
def Stmt.marks (around : List (Option String)) : Stmt → List Mark
  | .assign x e _ => e.marks ++ [.assigned x]
  | .ifThen c body => c.marks ++ Stmt.marksOfAll around body
  | .ifElse c t e => c.marks ++ (Stmt.marksOfAll around t ++ Stmt.marksOfAll around e)
  | .loop label? c body p =>
    .loop label? around p :: (c.marks ++ Stmt.marksOfAll (label? :: around) body)
  | .jump j label? p => [.jump j label? around p]
  | .expr e => e.marks

/-- The marks of statements. -/
def Stmt.marksOfAll (around : List (Option String)) : List Stmt → List Mark
  | [] => []
  | s :: ss => s.marks around ++ Stmt.marksOfAll around ss

end

end Tree

/-- The rules that a definition keeps, among the items of its program. -/
structure ValidBody (items : List Tree.Item) (params : List String) (body : List Tree.Stmt) :
    Prop where
  distinct : params.Nodup
  uses : ∀ before x p after, Tree.Stmt.marksOfAll [] body = before ++ .use x p :: after →
    x ∈ params ∨ .assigned x ∈ before
  calls : ∀ f n p, .call f n p ∈ Tree.Stmt.marksOfAll [] body →
    ∃ i ∈ items, i.name = f ∧ i.params.length = n
  jumps : ∀ j around p, .jump j none around p ∈ Tree.Stmt.marksOfAll [] body → around ≠ []
  labels : ∀ j label around p, .jump j (some label) around p ∈ Tree.Stmt.marksOfAll [] body →
    some label ∈ around
  loops : ∀ label around p, .loop (some label) around p ∈ Tree.Stmt.marksOfAll [] body →
    some label ∉ around

/-- The rules that a program keeps. -/
structure Program.Valid (p : Program) : Prop where
  items : (p.items.map Tree.Item.name).Nodup
  main : ∃ i ∈ p.items, i.name = "main" ∧ i.isDeclaration = false ∧ i.params = []
  bodies : ∀ i ∈ p.items, ∀ body, i.body? = some body → ValidBody p.items i.params body

/-! ## Mark by mark -/

/-- The names that assignments give a word. -/
def assignedIn (ms : List Mark) : List String :=
  ms.filterMap fun
    | .assigned x => some x
    | _ => none

theorem mem_assignedIn {x : String} {ms : List Mark} : x ∈ assignedIn ms ↔ .assigned x ∈ ms := by
  rw [assignedIn, List.mem_filterMap]
  constructor
  · rintro ⟨m, hm, h⟩
    cases m with
    | assigned y =>
      cases h
      exact hm
    | _ => cases h
  · exact fun h => ⟨_, h, rfl⟩

@[simp] theorem assignedIn_append (ms ms' : List Mark) :
    assignedIn (ms ++ ms') = assignedIn ms ++ assignedIn ms' :=
  List.filterMap_append

/-- A mark breaks no rule where the given names are known. -/
def Mark.Allowed (items : List Tree.Item) (known : List String) : Mark → Prop
  | use x _ => x ∈ known
  | assigned _ => True
  | call f n _ => ∃ i ∈ items, i.name = f ∧ i.params.length = n
  | jump _ none around _ => around ≠ []
  | jump _ (some label) around _ => some label ∈ around
  | loop none _ _ => True
  | loop (some label) around _ => some label ∉ around

/-- No mark breaks a rule. The names that are known grow by those assigned on the way. -/
def Admitted (items : List Tree.Item) (known : List String) (ms : List Mark) : Prop :=
  ∀ before m after, ms = before ++ m :: after → m.Allowed items (known ++ assignedIn before)

section Admitted

variable {items : List Tree.Item} {known known' : List String} {ms ms' : List Mark}

theorem Mark.Allowed.congr {m : Mark} (h : ∀ x, x ∈ known ↔ x ∈ known') :
    m.Allowed items known ↔ m.Allowed items known' := by
  cases m with
  | use x p => exact h x
  | assigned x => rfl
  | call f n p => rfl
  | jump j label? around p => cases label? <;> rfl
  | loop label? around p => cases label? <;> rfl

theorem Admitted.congr (h : ∀ x, x ∈ known ↔ x ∈ known') :
    Admitted items known ms ↔ Admitted items known' ms := by
  refine forall₄_congr fun before m after _ => Mark.Allowed.congr fun x => ?_
  rw [List.mem_append, List.mem_append, h x]

@[simp] theorem admitted_nil : Admitted items known [] := by
  intro before m after h
  cases before <;> cases h

theorem admitted_cons {m : Mark} : Admitted items known (m :: ms) ↔
    m.Allowed items known ∧ Admitted items (known ++ assignedIn [m]) ms := by
  constructor
  · intro h
    refine ⟨by simpa [assignedIn] using h [] m ms rfl, fun before m' after hms => ?_⟩
    have := h (m :: before) m' after (by rw [hms, List.cons_append])
    rwa [← List.singleton_append, assignedIn_append, ← List.append_assoc] at this
  · rintro ⟨hm, h⟩ before m' after hms
    cases before with
    | nil =>
      cases hms
      simpa [assignedIn] using hm
    | cons b before =>
      cases hms
      rw [← List.singleton_append, assignedIn_append, ← List.append_assoc]
      exact h before m' after rfl

theorem Admitted.left (h : Admitted items known (ms ++ ms')) : Admitted items known ms :=
  fun before m after hms =>
    h before m (after ++ ms') (by rw [hms, List.append_assoc, List.cons_append])

/-- Marks may be read in two parts, the second of them with the names that are known by then. -/
theorem admitted_append (h : ∀ x, x ∈ known' ↔ x ∈ known ∨ x ∈ assignedIn ms) :
    Admitted items known (ms ++ ms') ↔ Admitted items known ms ∧ Admitted items known' ms' := by
  induction ms generalizing known with
  | nil =>
    simp only [List.nil_append, admitted_nil, true_and]
    exact Admitted.congr fun x => by simp [h x, assignedIn]
  | cons m ms ih =>
    rw [List.cons_append, admitted_cons, admitted_cons, and_assoc]
    refine and_congr_right fun _ => ih fun x => ?_
    rw [h x, List.mem_append, or_assoc, ← List.mem_append (s := assignedIn [m]),
      ← assignedIn_append, List.singleton_append]

end Admitted

/-- A definition keeps the rules if its parameters are different and its marks, read one by one,
break none of them. -/
theorem validBody_iff {items : List Tree.Item} {params : List String} {body : List Tree.Stmt} :
    ValidBody items params body ↔
      params.Nodup ∧ Admitted items params (Tree.Stmt.marksOfAll [] body) := by
  constructor
  · intro h
    refine ⟨h.distinct, fun before m after hms => ?_⟩
    have hm : m ∈ Tree.Stmt.marksOfAll [] body := by simp [hms]
    cases m with
    | use x p =>
      show x ∈ params ++ assignedIn before
      simpa [mem_assignedIn] using h.uses before x p after hms
    | assigned x => trivial
    | call f n p => exact h.calls f n p hm
    | jump j label? around p =>
      cases label? with
      | none => exact h.jumps j around p hm
      | some label => exact h.labels j label around p hm
    | loop label? around p =>
      cases label? with
      | none => trivial
      | some label => exact h.loops label around p hm
  · rintro ⟨hp, h⟩
    have hmem : ∀ m ∈ Tree.Stmt.marksOfAll [] body,
        ∃ before, m.Allowed items (params ++ assignedIn before) := fun m hm => by
      obtain ⟨before, after, hms⟩ := List.append_of_mem hm
      exact ⟨before, h before m after hms⟩
    refine ⟨hp, fun before x p after hms => ?_, fun f n p hm => ?_, fun j around p hm => ?_,
      fun j label around p hm => ?_, fun label around p hm => ?_⟩
    · have hx : x ∈ params ++ assignedIn before := h before _ after hms
      simpa [mem_assignedIn] using hx
    all_goals
      obtain ⟨before, hm⟩ := hmem _ hm
      exact hm

end Looplet
