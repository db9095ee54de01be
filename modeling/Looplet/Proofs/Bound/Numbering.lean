import Looplet.Proofs.Bound.Accesses
import Looplet.Proofs.Bound.Binding
import Looplet.Proofs.Bound.Validity

/-!
# The numbers of slots and loops

The numbers in a function are those of a walk over its text from the first statement to the last
(`numbered_of_resolve`). The parameters come first, then each variable where it is first assigned;
loops are counted from zero, a loop before the loops in its body. A binder goes on from the numbers
that it is given, so the lemmas say what a part of a body adds to the slots (`stmts_newNames`) and
to the loops (`loopIds_stmts`), whatever came before.
-/

namespace Looplet

/-- The names that are not known yet, each once, as they first turn up. -/
def newNames (known names : List String) : List String :=
  (names.filter fun x => x ∉ known).eraseDups

theorem newNames_nil (known : List String) : newNames known [] = [] := rfl

theorem newNames_singleton_of_mem {known : List String} {x : String} (hx : x ∈ known) :
    newNames known [x] = [] := by
  simp [newNames, hx]

theorem newNames_singleton_of_not_mem {known : List String} {x : String} (hx : x ∉ known) :
    newNames known [x] = [x] := by
  simp [newNames, hx, List.eraseDups_cons]

/-- Names may be taken in two parts, the second of them when those of the first are known. -/
theorem append_newNames (known xs ys : List String) :
    known ++ newNames known (xs ++ ys) =
      known ++ newNames known xs ++ newNames (known ++ newNames known xs) ys := by
  have hrest : (ys.filter fun x => x ∉ known).removeAll (xs.filter fun x => x ∉ known) =
      ys.filter fun x => x ∉ known ++ newNames known xs := by
    rw [List.removeAll, List.filter_filter]
    refine List.filter_congr fun x _ => ?_
    by_cases hx : x ∈ known <;> simp [newNames, hx]
  rw [newNames, List.filter_append, List.eraseDups_append, hrest, ← List.append_assoc]
  rfl

/-- A definition and the numbers in the function that it is bound to. -/
structure Numbered (i : Tree.Item) (f : Bound.Function) : Prop where
  params : f.params = i.params.length
  body : ∃ body, i.body? = some body ∧
    f.slots = i.params ++ newNames i.params (assignedIn (Tree.Stmt.marksOfAll [] body)) ∧
    f.loops = Tree.Stmt.loopCountOfAll body
  slots : f.slots.Nodup
  loops : Bound.Stmt.loopIdsOfAll f.body = List.range f.loops
  loads : ∀ before slot after, Bound.Stmt.accessesOfAll f.body = before ++ .load slot :: after →
    slot < f.params ∨ .store slot ∈ before
  bounds : ∀ slot, .load slot ∈ Bound.Stmt.accessesOfAll f.body → slot < f.slots.length

namespace Bound

/-- Accesses that may follow when the first `n` slots have values. Each one reads one of these or a
slot that is written before it, and after the last one the first `m` slots have values. -/
structure Supplies (n m : Nat) (as : List Access) : Prop where
  loads : ∀ before slot after, as = before ++ .load slot :: after → slot < n ∨ .store slot ∈ before
  slots : ∀ slot < m, slot < n ∨ .store slot ∈ as

section Supplies

variable {k m n : Nat} {as bs : List Access}

theorem supplies_of_forall_lt (h : ∀ a ∈ as, a.slot < n) : Supplies n n as where
  loads before slot after has := .inl (h (.load slot) (by simp [has]))
  slots _ hslot := .inl hslot

theorem Supplies.append (has : Supplies n m as) (hbs : Supplies m k bs) :
    Supplies n k (as ++ bs) where
  loads before slot after h := by
    obtain ⟨before', rfl, hbefore⟩ | ⟨rest, hsplit, hrest⟩ := List.append_eq_append_iff.mp h
    · obtain hslot | hslot := hbs.loads before' slot after hbefore
      · exact (has.slots slot hslot).imp_right (List.mem_append_left before')
      · exact .inr (List.mem_append_right as hslot)
    · cases rest with
      | nil =>
        rw [List.append_nil] at hsplit
        obtain hslot | hslot := hbs.loads [] slot after hrest.symm
        · exact hsplit ▸ has.slots slot hslot
        · exact absurd hslot List.not_mem_nil
      | cons a rest =>
        cases hrest
        exact has.loads before slot rest hsplit
  slots slot hslot := by
    obtain hslot | hslot := hbs.slots slot hslot
    · exact (has.slots slot hslot).imp_right (List.mem_append_left bs)
    · exact .inr (List.mem_append_right as hslot)

end Supplies

end Bound

namespace Resolve

open Looplet.Bound (Supplies supplies_of_forall_lt)

variable {table : Table}

/-! ## Slots -/

theorem Scope.slots_assign (scope : Scope) (x : String) :
    (scope.assign x).2.slots = scope.slots ++ newNames scope.slots [x] := by
  unfold Scope.assign
  cases h : scope.slots.idxOf? x with
  | some slot =>
    rw [newNames_singleton_of_mem (exists_slot.mp ⟨slot, h⟩), List.append_nil]
  | none => rw [newNames_singleton_of_not_mem (List.idxOf?_eq_none_iff.mp h)]

mutual

/-- A statement adds the names that it assigns to the slots. -/
theorem stmt_newNames {loops : List OpenLoop} {scope : Scope} (around : List (Option String)) :
    (s : Tree.Stmt) → {r : Bound.Stmt × Scope} → stmt table loops scope s = .ok r →
    r.2.slots = scope.slots ++ newNames scope.slots (assignedIn (s.marks around))
  | .assign x e p, r, h => by
    obtain ⟨b, -, rfl⟩ := stmt_assign.mp h
    rw [Tree.Stmt.marks, assignedIn_append, assignedIn_expr, List.nil_append]
    exact scope.slots_assign x
  | .ifThen c body, r, h => by
    obtain ⟨bc, -, rb, hb, rfl⟩ := stmt_ifThen.mp h
    rw [Tree.Stmt.marks, assignedIn_append, assignedIn_expr, List.nil_append]
    exact stmts_newNames around body hb
  | .ifElse c t e, r, h => by
    obtain ⟨bc, -, rt, ht, re, he, rfl⟩ := stmt_ifElse.mp h
    rw [Tree.Stmt.marks, assignedIn_append, assignedIn_expr, List.nil_append, assignedIn_append,
      append_newNames, ← stmts_newNames around t ht]
    exact stmts_newNames around e he
  | .loop label? c body p, r, h => by
    obtain ⟨-, bc, -, rb, hb, rfl⟩ := stmt_loop.mp h
    rw [Tree.Stmt.marks, ← List.singleton_append, assignedIn_append, assignedIn_append,
      assignedIn_expr]
    have hbody := stmts_newNames (label? :: around) body hb
    exact hbody
  | .jump j label? p, r, h => by
    obtain ⟨id, -, rfl⟩ := stmt_jump.mp h
    exact (List.append_nil _).symm
  | .expr e, r, h => by
    obtain ⟨b, -, rfl⟩ := stmt_expr.mp h
    rw [Tree.Stmt.marks, assignedIn_expr, newNames_nil, List.append_nil]

theorem stmts_newNames {loops : List OpenLoop} {scope : Scope} (around : List (Option String)) :
    (ss : List Tree.Stmt) → {rs : List Bound.Stmt × Scope} →
    stmts table loops scope ss = .ok rs →
    rs.2.slots = scope.slots ++ newNames scope.slots (assignedIn (Tree.Stmt.marksOfAll around ss))
  | [], rs, h => by
    cases h
    exact (List.append_nil _).symm
  | s :: ss, rs, h => by
    obtain ⟨r, hr, rs', hrs, rfl⟩ := stmts_cons.mp h
    have hrest := stmts_newNames around ss hrs
    rw [Tree.Stmt.marksOfAll, assignedIn_append, append_newNames, ← stmt_newNames around s hr]
    exact hrest

end

/-! ## Reads after writes -/

theorem supplies_expr {slots : List String} {e : Tree.Expr} {b : Bound.Expr}
    (h : expr table slots e = .ok b) : Supplies slots.length slots.length b.accesses :=
  supplies_of_forall_lt (b.scoped_iff.mp (expr_scoped (Nat.le_refl _) e h))

theorem supplies_assign (scope : Scope) (x : String) :
    Supplies scope.slots.length (scope.assign x).2.slots.length [.store (scope.assign x).1] where
  loads before slot after h := by
    cases before with
    | nil => cases h
    | cons a before => cases before <;> cases h
  slots slot hslot := by
    revert hslot
    unfold Scope.assign
    cases scope.slots.idxOf? x with
    | some s => exact .inl
    | none =>
      intro hslot
      rw [List.length_append, List.length_singleton, Nat.lt_succ_iff_lt_or_eq] at hslot
      refine hslot.imp_right ?_
      rintro rfl
      exact List.mem_singleton_self _

mutual

theorem supplies_stmt {loops : List OpenLoop} {scope : Scope} : (s : Tree.Stmt) →
    {r : Bound.Stmt × Scope} → stmt table loops scope s = .ok r →
    Supplies scope.slots.length r.2.slots.length r.1.accesses
  | .assign x e p, r, h => by
    obtain ⟨b, hb, rfl⟩ := stmt_assign.mp h
    exact (supplies_expr hb).append (supplies_assign scope x)
  | .ifThen c body, r, h => by
    obtain ⟨bc, hc, rb, hb, rfl⟩ := stmt_ifThen.mp h
    rw [Bound.Stmt.accesses, Bound.Stmt.accessesOfAll, List.append_nil]
    exact (supplies_expr hc).append (supplies_stmts body hb)
  | .ifElse c t e, r, h => by
    obtain ⟨bc, hc, rt, ht, re, he, rfl⟩ := stmt_ifElse.mp h
    exact (supplies_expr hc).append ((supplies_stmts t ht).append (supplies_stmts e he))
  | .loop label? c body p, r, h => by
    obtain ⟨-, bc, hc, rb, hb, rfl⟩ := stmt_loop.mp h
    have hbody := supplies_stmts body hb
    exact (supplies_expr hc).append hbody
  | .jump j label? p, r, h => by
    obtain ⟨id, -, rfl⟩ := stmt_jump.mp h
    exact supplies_of_forall_lt (List.forall_mem_nil _)
  | .expr e, r, h => by
    obtain ⟨b, hb, rfl⟩ := stmt_expr.mp h
    exact supplies_expr hb

theorem supplies_stmts {loops : List OpenLoop} {scope : Scope} : (ss : List Tree.Stmt) →
    {rs : List Bound.Stmt × Scope} → stmts table loops scope ss = .ok rs →
    Supplies scope.slots.length rs.2.slots.length (Bound.Stmt.accessesOfAll rs.1)
  | [], rs, h => by
    cases h
    exact supplies_of_forall_lt (List.forall_mem_nil _)
  | s :: ss, rs, h => by
    obtain ⟨r, hr, rs', hrs, rfl⟩ := stmts_cons.mp h
    exact (supplies_stmt s hr).append (supplies_stmts ss hrs)

end

/-! ## Programs -/

theorem Defines.numbered {i : Tree.Item} {f : Bound.Function} (h : Defines table i f) :
    Numbered i f := by
  obtain ⟨body, hb, hf⟩ := h
  obtain ⟨hp, rs, hrs, rfl⟩ := definition_eq_ok.mp hf
  obtain ⟨hcount, hids⟩ := loopIds_stmts body hrs
  have hscoped := (Bound.Stmt.scopedAll_iff [] rs.1).mp (stmts_scoped body hrs (Nat.le_refl _))
  exact {
    params := rfl
    body := ⟨body, hb, stmts_newNames [] body hrs, hcount.trans (Nat.zero_add _)⟩
    slots := (stmts_grows body hrs).nodup hp
    loops := by rw [hids, hcount, Nat.zero_add, List.range_eq_range']
    loads := (supplies_stmts body hrs).loads
    bounds := fun slot hslot => hscoped.1 (.load slot) hslot }

end Resolve

/-- The functions of a program that is bound have their slots and loops numbered in the order of the
text, and read no slot that is not a parameter or written before. -/
theorem numbered_of_resolve {p : Program} {b : Bound.Program} (h : resolve p = .ok b) :
    List.Forall₂ Numbered (p.items.filter fun i => !i.isDeclaration) b.functions := by
  obtain ⟨-, -, fs, hfs, rfl⟩ := Resolve.resolve_eq_ok.mp h
  exact (Resolve.definitions_eq_ok.mp hfs).imp fun i f hd => hd.numbered

theorem crossing_numbered : resolve crossing = .ok crossed ∧
    List.Forall₂ Numbered (crossing.items.filter fun i => !i.isDeclaration) crossed.functions :=
  have h : resolve crossing = .ok crossed := by rfl
  ⟨h, numbered_of_resolve h⟩

end Looplet
