import Looplet.Proofs.Bound.Validity
import Looplet.Proofs.Tree.Renamed
import Mathlib.Data.List.Find

/-!
# Names do not matter, only their binding

A slot is where a variable stands among those named before, and a jump finds its loop by comparing
labels. So if different variables keep different names, and different labels too, the walk over a
body takes the same way: it gives the same body, with the slots under their new names, or stops at
the same position (`definition_renamed`). Nothing else in a program looks at these names, whence the
whole program is bound to the same or rejected at the same position (`resolve_renamed`). Variables,
labels and functions are looked up apart, so nothing is asked of names that two of them share.
-/

namespace Looplet

variable {ρ σ : String → String}

namespace Resolve

/-- The violation with other names of variables and other labels. -/
def Violation.renamed (ρ σ : String → String) : Violation → Violation
  | repeatedParam x f => repeatedParam (ρ x) f
  | unassigned x => unassigned (ρ x)
  | unknownLabel j label => unknownLabel j (σ label)
  | shadowedLabel label => shadowedLabel (σ label)
  | v => v

/-- The error with other names of variables and other labels, at the same position. -/
def Error.renamed (ρ σ : String → String) (e : Error) : Error :=
  ⟨e.position, e.violation.renamed ρ σ⟩

/-- The loop with another label. -/
def OpenLoop.renamed (σ : String → String) (l : OpenLoop) : OpenLoop :=
  ⟨l.label?.map σ, l.id⟩

/-- The scope with other names of slots. -/
def Scope.renamed (ρ : String → String) (s : Scope) : Scope :=
  ⟨s.slots.map ρ, s.loops⟩

variable {V L : Set String} {table : Table} {slots : List String} {loops : List OpenLoop}
  {scope : Scope}

/-! ## Looking up -/

theorem idxOf?_map (hρ : Set.InjOn ρ V) (hslots : ∀ x ∈ slots, x ∈ V) {x : String} (hx : x ∈ V) :
    (slots.map ρ).idxOf? (ρ x) = slots.idxOf? x := by
  induction slots with
  | nil => rfl
  | cons y slots ih =>
    rw [List.forall_mem_cons] at hslots
    rw [List.map_cons, List.idxOf?_cons, List.idxOf?_cons, ih hslots.2]
    by_cases hy : y = x
    · rw [hy, beq_self_eq_true, beq_self_eq_true]
    · rw [beq_false_of_ne hy, beq_false_of_ne fun h => hy (hρ hslots.1 hx h)]

theorem Scope.assign_renamed (hρ : Set.InjOn ρ V) (hscope : ∀ x ∈ scope.slots, x ∈ V) {x : String}
    (hx : x ∈ V) :
    (scope.renamed ρ).assign (ρ x) = ((scope.assign x).1, (scope.assign x).2.renamed ρ) := by
  unfold assign
  rw [renamed, idxOf?_map hρ hscope hx]
  cases scope.slots.idxOf? x with
  | some slot => rfl
  | none => simp [renamed]

/-- The labels of the loops are among the given ones. -/
def LabelsIn (L : Set String) (loops : List OpenLoop) : Prop :=
  ∀ l ∈ loops, ∀ label ∈ l.label?, label ∈ L

theorem label?_renamed_eq (hσ : Set.InjOn σ L) {l : OpenLoop} (hl : ∀ label ∈ l.label?, label ∈ L)
    {label : String} (hlabel : label ∈ L) :
    (l.renamed σ).label? = some (σ label) ↔ l.label? = some label := by
  rw [OpenLoop.renamed, Option.map_eq_some_iff]
  constructor
  · rintro ⟨other, hother, heq⟩
    rw [hother, hσ (hl other hother) hlabel heq]
  · exact fun h => ⟨label, h, rfl⟩

theorem jumpTarget_renamed (hσ : Set.InjOn σ L) (hloops : LabelsIn L loops) (j : Jump)
    (p : Position) {label? : Option String} (hlabel : ∀ label ∈ label?, label ∈ L) :
    jumpTarget j (loops.map (OpenLoop.renamed σ)) p (label?.map σ)
      = mapBoth (Error.renamed ρ σ) id (jumpTarget j loops p label?) := by
  cases label? with
  | none => cases loops <;> rfl
  | some label =>
    have hfind : (loops.map (OpenLoop.renamed σ)).find? (fun l => l.label? = some (σ label))
        = (loops.find? fun l => l.label? = some label).map (OpenLoop.renamed σ) := by
      rw [List.find?_map]
      refine congrArg _ (List.find?_congr fun l hl => ?_)
      exact decide_eq_decide.mpr (label?_renamed_eq hσ (hloops l hl) (hlabel label rfl))
    simp only [Option.map_some, jumpTarget, hfind]
    cases loops.find? fun l => l.label? = some label <;> rfl

theorem shadowing?_renamed (hσ : Set.InjOn σ L) (hloops : LabelsIn L loops)
    {label? : Option String} (hlabel : ∀ label ∈ label?, label ∈ L) :
    shadowing? (loops.map (OpenLoop.renamed σ)) (label?.map σ)
      = (shadowing? loops label?).map σ := by
  cases label? with
  | none => rfl
  | some label =>
    have hany : (loops.map (OpenLoop.renamed σ)).any (fun l => l.label? = some (σ label))
        = loops.any fun l => l.label? = some label := by
      rw [List.any_map, Bool.eq_iff_iff]
      simp only [List.any_eq_true, Function.comp_apply, decide_eq_true_eq]
      exact exists_congr fun l => and_congr_right fun hl =>
        label?_renamed_eq hσ (hloops l hl) (hlabel label rfl)
    simp only [shadowing?, Option.map_some, Option.filter_some, hany]
    split <;> rfl

/-! ## Bodies -/

mutual

theorem expr_renamed (hρ : Set.InjOn ρ V) (hslots : ∀ x ∈ slots, x ∈ V) : (e : Tree.Expr) →
    NamesIn V L e.marks →
    expr table (slots.map ρ) (e.renamed ρ)
      = mapBoth (Error.renamed ρ σ) id (expr table slots e)
  | .int v, _ => rfl
  | .var x p, hn => by
    rw [Tree.Expr.marks, namesIn_cons] at hn
    rw [Tree.Expr.renamed, expr, expr, idxOf?_map hρ hslots (hn.1.1 x rfl)]
    cases slots.idxOf? x <;> rfl
  | .binary op l r, hn => by
    rw [Tree.Expr.marks, namesIn_append] at hn
    rw [Tree.Expr.renamed, expr, expr]
    refine mapBoth_bind (expr_renamed hρ hslots l hn.1) fun bl _ => ?_
    exact mapBoth_bind (expr_renamed hρ hslots r hn.2) fun br _ => rfl
  | .call f args p, hn => by
    rw [Tree.Expr.marks, namesIn_cons] at hn
    rw [Tree.Expr.renamed, expr, expr, Tree.Expr.length_renamedAll]
    cases table.lookup f with
    | none => rfl
    | some s =>
      by_cases ha : s.arity ≠ args.length
      · simp only [if_pos ha]
        rfl
      · simp only [if_neg ha]
        exact mapBoth_bind (exprs_renamed hρ hslots args hn.2) fun bs _ => rfl

theorem exprs_renamed (hρ : Set.InjOn ρ V) (hslots : ∀ x ∈ slots, x ∈ V) :
    (es : List Tree.Expr) → NamesIn V L (Tree.Expr.marksOfAll es) →
    exprs table (slots.map ρ) (Tree.Expr.renamedAll ρ es)
      = mapBoth (Error.renamed ρ σ) id (exprs table slots es)
  | [], _ => rfl
  | e :: es, hn => by
    rw [Tree.Expr.marksOfAll, namesIn_append] at hn
    rw [Tree.Expr.renamedAll, exprs, exprs]
    refine mapBoth_bind (expr_renamed hρ hslots e hn.1) fun b _ => ?_
    exact mapBoth_bind (exprs_renamed hρ hslots es hn.2) fun bs _ => rfl

end

/-- Slots that statements add are under names in these statements. -/
theorem slots_of_stmts {around : List (Option String)} {ss : List Tree.Stmt}
    (hn : NamesIn V L (Tree.Stmt.marksOfAll around ss)) (hscope : ∀ x ∈ scope.slots, x ∈ V)
    {rs : List Bound.Stmt × Scope} (h : stmts table loops scope ss = .ok rs) :
    ∀ x ∈ rs.2.slots, x ∈ V := by
  intro x hx
  rcases (stmts_slots around ss h x).mp hx with hx | hx
  · exact hscope x hx
  · exact hn.of_assignedIn x hx

theorem slots_of_stmt {around : List (Option String)} {s : Tree.Stmt}
    (hn : NamesIn V L (s.marks around)) (hscope : ∀ x ∈ scope.slots, x ∈ V)
    {r : Bound.Stmt × Scope} (h : stmt table loops scope s = .ok r) : ∀ x ∈ r.2.slots, x ∈ V := by
  intro x hx
  rcases (stmt_slots around s h x).mp hx with hx | hx
  · exact hscope x hx
  · exact hn.of_assignedIn x hx

mutual

theorem stmt_renamed (hρ : Set.InjOn ρ V) (hσ : Set.InjOn σ L) {loops : List OpenLoop}
    {scope : Scope} {around : List (Option String)} (hloops : LabelsIn L loops)
    (hscope : ∀ x ∈ scope.slots, x ∈ V) : (s : Tree.Stmt) → NamesIn V L (s.marks around) →
    stmt table (loops.map (OpenLoop.renamed σ)) (scope.renamed ρ) (s.renamed ρ σ)
      = mapBoth (Error.renamed ρ σ) (Prod.map id (Scope.renamed ρ)) (stmt table loops scope s)
  | .assign x e p, hn => by
    rw [Tree.Stmt.marks, namesIn_append, namesIn_cons] at hn
    rw [Tree.Stmt.renamed, stmt, stmt]
    refine mapBoth_bind (expr_renamed hρ hscope e hn.1) fun b _ => ?_
    rw [Scope.assign_renamed hρ hscope (hn.2.1.1 x rfl)]
    rfl
  | .ifThen c body, hn => by
    rw [Tree.Stmt.marks, namesIn_append] at hn
    rw [Tree.Stmt.renamed, stmt, stmt]
    refine mapBoth_bind (expr_renamed hρ hscope c hn.1) fun bc _ => ?_
    exact mapBoth_bind (stmts_renamed hρ hσ hloops hscope body hn.2) fun rb _ => rfl
  | .ifElse c t e, hn => by
    rw [Tree.Stmt.marks, namesIn_append, namesIn_append] at hn
    rw [Tree.Stmt.renamed, stmt, stmt]
    refine mapBoth_bind (expr_renamed hρ hscope c hn.1) fun bc _ => ?_
    refine mapBoth_bind (stmts_renamed hρ hσ hloops hscope t hn.2.1) fun rt ht => ?_
    have hscope' := slots_of_stmts hn.2.1 hscope ht
    exact mapBoth_bind (stmts_renamed hρ hσ hloops hscope' e hn.2.2) fun re _ => rfl
  | .loop label? c body p, hn => by
    rw [Tree.Stmt.marks, namesIn_cons, namesIn_append] at hn
    have hlabel : ∀ label ∈ label?, label ∈ L := hn.1.2
    rw [Tree.Stmt.renamed, stmt, stmt, shadowing?_renamed hσ hloops hlabel]
    cases shadowing? loops label? with
    | some label => rfl
    | none =>
      refine mapBoth_bind (expr_renamed hρ hscope c hn.2.1) fun bc _ => ?_
      have hloops' : LabelsIn L (⟨label?, scope.loops⟩ :: loops) :=
        List.forall_mem_cons.mpr ⟨hlabel, hloops⟩
      have hscope' : ∀ x ∈ Scope.slots ⟨scope.slots, scope.loops + 1⟩, x ∈ V := hscope
      exact mapBoth_bind (stmts_renamed hρ hσ hloops' hscope' body hn.2.2) fun rb _ => rfl
  | .jump j label? p, hn => by
    rw [Tree.Stmt.marks, namesIn_cons] at hn
    rw [Tree.Stmt.renamed, stmt, stmt]
    exact mapBoth_bind (jumpTarget_renamed hσ hloops j p hn.1.2) fun id _ => rfl
  | .expr e, hn => by
    rw [Tree.Stmt.renamed, stmt, stmt]
    exact mapBoth_bind (expr_renamed hρ hscope e hn) fun b _ => rfl

theorem stmts_renamed (hρ : Set.InjOn ρ V) (hσ : Set.InjOn σ L) {loops : List OpenLoop}
    {scope : Scope} {around : List (Option String)} (hloops : LabelsIn L loops)
    (hscope : ∀ x ∈ scope.slots, x ∈ V) : (ss : List Tree.Stmt) →
    NamesIn V L (Tree.Stmt.marksOfAll around ss) →
    stmts table (loops.map (OpenLoop.renamed σ)) (scope.renamed ρ) (Tree.Stmt.renamedAll ρ σ ss)
      = mapBoth (Error.renamed ρ σ) (Prod.map id (Scope.renamed ρ)) (stmts table loops scope ss)
  | [], _ => rfl
  | s :: ss, hn => by
    rw [Tree.Stmt.marksOfAll, namesIn_append] at hn
    rw [Tree.Stmt.renamedAll, stmts, stmts]
    refine mapBoth_bind (stmt_renamed hρ hσ hloops hscope s hn.1) fun r hr => ?_
    have hscope' := slots_of_stmt hn.1 hscope hr
    exact mapBoth_bind (stmts_renamed hρ hσ hloops hscope' ss hn.2) fun rs _ => rfl

end

/-! ## Definitions -/

theorem checkParams_renamed (hρ : Set.InjOn ρ V) (g : String) (p : Position) {seen xs : List String}
    (hseen : ∀ x ∈ seen, x ∈ V) (hxs : ∀ x ∈ xs, x ∈ V) :
    checkParams g p (seen.map ρ) (xs.map ρ)
      = mapBoth (Error.renamed ρ σ) id (checkParams g p seen xs) := by
  induction xs generalizing seen with
  | nil => rfl
  | cons x xs ih =>
    rw [List.forall_mem_cons] at hxs
    have hmem : ρ x ∈ seen.map ρ ↔ x ∈ seen := by
      rw [List.mem_map]
      constructor
      · rintro ⟨y, hy, heq⟩
        rwa [← hρ (hseen y hy) hxs.1 heq]
      · exact fun h => ⟨x, h, rfl⟩
    rw [List.map_cons, checkParams, checkParams]
    by_cases hx : x ∈ seen
    · rw [if_pos hx, if_pos (hmem.mpr hx)]
      rfl
    · have hseen' : ∀ y ∈ seen ++ [x], y ∈ V :=
        List.forall_mem_append.mpr ⟨hseen, List.forall_mem_singleton.mpr hxs.1⟩
      have hrest := ih hseen' hxs.2
      rw [List.map_append] at hrest
      rw [if_neg hx, if_neg (mt hmem.mp hx)]
      exact hrest

end Resolve

/-- The function with other names of slots. -/
def Bound.Function.reslotted (ρ : String → String) (f : Bound.Function) : Bound.Function :=
  { f with slots := f.slots.map ρ }

/-- The program where the slots of one function have other names. -/
def Bound.Program.reslotted (name : String) (ρ : String → String) (b : Bound.Program) :
    Bound.Program :=
  ⟨b.functions.map fun f => if f.name = name then f.reslotted ρ else f, b.declarations⟩

namespace Resolve

variable {i : Tree.Item} {before after : List Tree.Item} {table : Table}

/-- A definition under other names is bound to the same function, up to the names of its slots, or
it breaks the same rule at the same position. -/
theorem definition_renamed (hρ : Set.InjOn ρ {x | x ∈ i.vars})
    (hσ : Set.InjOn σ {label | label ∈ i.labels}) {body : List Tree.Stmt}
    (hbody : i.body? = some body) :
    definition table (i.renamed ρ σ) (Tree.Stmt.renamedAll ρ σ body)
      = mapBoth (Error.renamed ρ σ) (Bound.Function.reslotted ρ) (definition table i body) := by
  have hparams : ∀ x ∈ i.params, x ∈ {x | x ∈ i.vars} :=
    fun x hx => List.mem_append_left _ hx
  have hnames := i.namesIn_marks
  simp only [Tree.Item.marks, hbody, Option.elim_some] at hnames
  rw [definition, definition]
  refine mapBoth_bind (checkParams_renamed hρ _ _ (List.forall_mem_nil _) hparams) fun _ _ => ?_
  have hbound : stmts table [] (Scope.renamed ρ ⟨i.params, 0⟩) (Tree.Stmt.renamedAll ρ σ body)
      = mapBoth (Error.renamed ρ σ) (Prod.map id (Scope.renamed ρ))
          (stmts table [] ⟨i.params, 0⟩ body) :=
    stmts_renamed hρ hσ (List.forall_mem_nil _) hparams body hnames
  refine mapBoth_bind hbound fun rs _ => ?_
  simp [mapBoth, Tree.Item.renamed, Bound.Function.reslotted, Scope.renamed, pure, Except.pure]

theorem definitions_append (items rest : List Tree.Item) :
    definitions table (items ++ rest)
      = (do return (← definitions table items) ++ (← definitions table rest)) := by
  induction items with
  | nil =>
    rw [List.nil_append, definitions, ok_bind]
    cases definitions table rest <;> rfl
  | cons i items ih =>
    rw [List.cons_append, definitions, definitions]
    cases i.body? with
    | none => exact ih
    | some body =>
      simp only [ih]
      cases definition table i body with
      | error e => rfl
      | ok f => cases definitions table items <;> cases definitions table rest <;> rfl

/-- Functions of items with other names keep the names of their slots. -/
theorem map_reslotted_of_ne {items : List Tree.Item} {fs : List Bound.Function} {name : String}
    (hfs : definitions table items = .ok fs) (hne : ∀ j ∈ items, j.name ≠ name) :
    fs.map (fun f => if f.name = name then f.reslotted ρ else f) = fs := by
  refine (List.map_congr_left fun f hf => ?_).trans (List.map_id fs)
  obtain ⟨j, hj, hdefines⟩ := exists_of_mem_right (definitions_eq_ok.mp hfs) hf
  rw [if_neg, id]
  rw [hdefines.name]
  exact hne j (List.mem_of_mem_filter hj)

theorem definitions_renamed (hρ : Set.InjOn ρ {x | x ∈ i.vars})
    (hσ : Set.InjOn σ {label | label ∈ i.labels}) {body : List Tree.Stmt}
    (hbody : i.body? = some body) (hbefore : ∀ j ∈ before, j.name ≠ i.name)
    (hafter : ∀ j ∈ after, j.name ≠ i.name) :
    (definitions table (before ++ i.renamed ρ σ :: after)).mapError Error.position
      = ((definitions table (before ++ i :: after)).map
          (List.map fun f => if f.name = i.name then f.reslotted ρ else f)).mapError
            Error.position := by
  have hbody' : (i.renamed ρ σ).body? = some (Tree.Stmt.renamedAll ρ σ body) := by
    rw [Tree.Item.renamed, hbody, Option.map_some]
  rw [definitions_append, definitions_append]
  cases hfs : definitions table before with
  | error e => rfl
  | ok fs =>
    simp only [definitions, hbody, hbody', definition_renamed hρ hσ hbody]
    cases hf : definition table i body with
    | error e => rfl
    | ok f =>
      cases hgs : definitions table after with
      | error e => rfl
      | ok gs =>
        have hname : f.name = i.name := Defines.name ⟨body, hbody, hf⟩
        have hmap : (fs ++ f :: gs).map (fun f => if f.name = i.name then f.reslotted ρ else f)
            = fs ++ f.reslotted ρ :: gs := by
          rw [List.map_append, List.map_cons, if_pos hname, map_reslotted_of_ne hfs hbefore,
            map_reslotted_of_ne hgs hafter]
        exact congrArg Except.ok hmap.symm

theorem tableFrom_renamed (table : Table) :
    tableFrom table (before ++ i.renamed ρ σ :: after)
      = tableFrom table (before ++ i :: after) := by
  have hsignature : Signature.ofItem (i.renamed ρ σ) = Signature.ofItem i := by
    simp [Signature.ofItem, Tree.Item.renamed, Tree.Item.isDeclaration]
  induction before generalizing table with
  | nil =>
    rw [List.nil_append, List.nil_append, tableFrom, tableFrom, Tree.Item.name_renamed, hsignature]
    rfl
  | cons j before ih =>
    rw [List.cons_append, List.cons_append, tableFrom, tableFrom]
    simp only [ih]

theorem declarations_renamed (hi : i.isDeclaration = false) :
    declarations (before ++ i.renamed ρ σ :: after) = declarations (before ++ i :: after) := by
  simp [declarations, hi]

end Resolve

@[simp] theorem Bound.Program.reslotted_id (name : String) (b : Bound.Program) :
    b.reslotted name id = b := by
  simp [reslotted, Function.reslotted]

section Definition

variable {i : Tree.Item} {before after : List Tree.Item}

/-- Where one definition is under other names, the program is bound to the same, up to the names of
the slots of this definition, or it is rejected at the same position. -/
theorem resolve_renamed (hi : i.isDeclaration = false) (hρ : Set.InjOn ρ {x | x ∈ i.vars})
    (hσ : Set.InjOn σ {label | label ∈ i.labels}) :
    (resolve ⟨before ++ i.renamed ρ σ :: after⟩).mapError Resolve.Error.position
      = ((resolve ⟨before ++ i :: after⟩).map (Bound.Program.reslotted i.name ρ)).mapError
          Resolve.Error.position := by
  obtain ⟨body, hbody⟩ : ∃ body, i.body? = some body := by
    rwa [Tree.Item.isDeclaration, Option.isNone_eq_false_iff, Option.isSome_iff_exists] at hi
  rw [resolve, resolve, Resolve.tableOf, Resolve.tableOf, Resolve.tableFrom_renamed]
  cases htable : Resolve.tableFrom [] (before ++ i :: after) with
  | error e => rfl
  | ok table =>
    -- there is a table, so no other item has this name and no other function is meant by it
    obtain ⟨hnodup, -, -⟩ := Resolve.tableFrom_eq_ok.mp htable
    rw [(List.perm_middle.map Tree.Item.name).nodup_iff, List.map_cons, List.nodup_cons] at hnodup
    have hne : ∀ j ∈ before ++ after, j.name ≠ i.name :=
      fun j hj hname => hnodup.1 (hname ▸ List.mem_map_of_mem hj)
    rw [List.forall_mem_append] at hne
    simp only [ok_bind, Resolve.declarations_renamed hi]
    cases Resolve.checkMain table with
    | error e => rfl
    | ok u =>
      simp only [ok_bind]
      rw [mapError_bind, Resolve.definitions_renamed hρ hσ hbody hne.1 hne.2]
      cases Resolve.definitions table (before ++ i :: after) <;> rfl

/-- Other names of the variables of a definition, different for different variables, change the
program that is bound in the names of this definition's slots, and other labels do not change it at
all. A program that is rejected is rejected at the same position. -/
theorem resolve_names_immaterial (hi : i.isDeclaration = false) :
    (∀ ρ, Set.InjOn ρ {x | x ∈ i.vars} →
      (resolve ⟨before ++ i.renamed ρ id :: after⟩).mapError Resolve.Error.position
        = ((resolve ⟨before ++ i :: after⟩).map (Bound.Program.reslotted i.name ρ)).mapError
            Resolve.Error.position) ∧
      ∀ σ, Set.InjOn σ {label | label ∈ i.labels} →
        (resolve ⟨before ++ i.renamed id σ :: after⟩).mapError Resolve.Error.position
          = (resolve ⟨before ++ i :: after⟩).mapError Resolve.Error.position := by
  refine ⟨fun ρ hρ => resolve_renamed hi hρ (Set.injOn_id _), fun σ hσ => ?_⟩
  rw [resolve_renamed hi (Set.injOn_id _) hσ]
  cases resolve ⟨before ++ i :: after⟩ with
  | error e => rfl
  | ok b => exact congrArg Except.ok (b.reslotted_id i.name)

end Definition

/-- A definition where a parameter and a label are called as the function is, and a variable as
`main` is. -/
def namesakes : Tree.Item where
  name := "f"
  params := ["f"]
  position := Position.start
  body? := some
    [.loop (some "f") (.var "f" Position.start)
      [.assign "main" (.call "f" [.var "f" Position.start] Position.start) Position.start,
        .jump .leave (some "f") Position.start] Position.start,
      .expr (.binary .add (.var "main" Position.start) (.var "f" Position.start))]

/-- A definition of `main` that calls it. -/
def caller : Tree.Item where
  name := "main"
  params := []
  position := Position.start
  body? := some [.expr (.call "f" [.int 1] Position.start)]

theorem namesakes_immaterial :
    let swapped := Equiv.swap "f" "main"
    namesakes.isDeclaration = false ∧ ∃ b, resolve ⟨[namesakes, caller]⟩ = .ok b ∧
      b.functions.map Bound.Function.slots = [["f", "main"], []] ∧
      resolve ⟨[namesakes.renamed swapped id, caller]⟩ = .ok (b.reslotted "f" swapped) ∧
      resolve ⟨[namesakes.renamed id swapped, caller]⟩ = .ok b := by
  intro swapped
  obtain ⟨b, hb⟩ : ∃ b, resolve ⟨[namesakes, caller]⟩ = .ok b := exists_ok (by decide +kernel)
  have hslots : (resolve ⟨[namesakes, caller]⟩).toOption.map
      (fun b => b.functions.map Bound.Function.slots) = some [["f", "main"], []] := by
    decide +kernel
  rw [hb] at hslots
  obtain ⟨hvariables, hlabels⟩ :=
    @resolve_names_immaterial namesakes [] [caller] rfl
  have hrenamed := hvariables swapped swapped.injective.injOn
  have hrelabelled := hlabels swapped swapped.injective.injOn
  simp only [List.nil_append, hb] at hrenamed hrelabelled
  exact ⟨rfl, b, hb, Option.some.inj hslots, mapError_eq_ok.mp hrenamed,
    mapError_eq_ok.mp hrelabelled⟩

end Looplet
