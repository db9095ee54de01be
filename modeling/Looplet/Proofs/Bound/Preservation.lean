import Looplet.Proofs.Bound.Meaning
import Looplet.Proofs.Bound.Table
import Looplet.Proofs.Tree.Meaning
import Mathlib.Data.List.Nodup

/-!
# Bound programs mean what their trees mean

    resolve p = .ok b → b.run = p.run           (run_resolve)

When a definition is bound its slots are the names that it uses, so the cells of an activation are
the words of these names. Statements that are bound early know a part of the slots only, hence the
lemmas are about any list `S` that goes on from the slots at hand. A jump and what it is bound to
act on the same loop, since the loops around a statement have different numbers.
-/

namespace Looplet.Resolve

open Looplet.Tree (Env)

variable {table : Table} {S : List String} {tcall : Tree.Calls} {bcall : Bound.Calls}

/-- Calls in a tree come to what the calls that they are bound to come to. -/
def Links (table : Table) (tcall : Tree.Calls) (bcall : Bound.Calls) : Prop :=
  ∀ name s, table.lookup name = some s → tcall name = bcall (s.callee name)

/-! ## Names and slots -/

/-- An assignment is a store into the slot of the name. -/
theorem map_set (hS : S.Nodup) {slot : Nat} {x : String} (hx : S[slot]? = some x) (env : Env)
    (w : Int64) : S.map (env.set x w) = (S.map env).set slot w := by
  obtain ⟨hlt, rfl⟩ := List.getElem?_eq_some_iff.mp hx
  refine List.ext_getElem (by simp) fun k hk hk' => ?_
  have hkS : k < S.length := by simpa using hk
  rw [List.getElem_map, List.getElem_set]
  by_cases hks : slot = k
  · subst hks
    rw [if_pos rfl, Env.set, if_pos rfl]
  · rw [if_neg hks, List.getElem_map, Env.set,
      if_neg fun h => hks (hS.getElem_inj_iff.mp h).symm]

/-- At the start of a call the parameters have the arguments, and the other slots have zero. -/
theorem map_start {params : List String} (hp : params <+: S) (hS : S.Nodup) (args : List Int64) :
    S.map (Env.start params args)
      = (List.range S.length).map fun k => if k < params.length then args.getD k 0 else 0 := by
  obtain ⟨more, rfl⟩ := hp
  refine List.ext_getElem (by simp) fun k hklen _ => ?_
  rw [List.getElem_map, List.getElem_map, List.getElem_range, Env.start]
  obtain ⟨hparams, -, hdisjoint⟩ := List.nodup_append.mp hS
  by_cases hk : k < params.length
  · rw [if_pos hk, List.getElem_append_left hk]
    have hidx : params.idxOf? params[k] = some k := by
      refine List.findIdx?_eq_some_iff_getElem.mpr ⟨hk, by simp, fun j hj => ?_⟩
      simp only [beq_iff_eq]
      exact fun h => Nat.ne_of_lt hj (hparams.getElem_inj_iff.mp h)
    rw [hidx]
  · have hmore : k - params.length < more.length := by
      rw [List.length_map, List.length_append] at hklen
      omega
    rw [if_neg hk, List.getElem_append_right (by omega)]
    have hidx : params.idxOf? more[k - params.length] = none := by
      rw [List.idxOf?_eq_none_iff]
      exact fun h => hdisjoint _ h _ (List.getElem_mem ..) rfl
    rw [hidx]

/-! ## Expressions -/

mutual

theorem eval_expr (hcall : Links table tcall bcall) {slots : List String} (hS : slots <+: S)
    (env : Env) : (e : Tree.Expr) → {b : Bound.Expr} → expr table slots e = .ok b →
    e.eval tcall env = b.eval bcall (S.map env)
  | .int v, b, h => by
    cases h
    rfl
  | .var x p, b, h => by
    obtain ⟨slot, hx, rfl⟩ := expr_var.mp h
    have hslot := getElem?_of_isPrefix hS (getElem?_of_idxOf? hx)
    simp only [Tree.Expr.eval, Bound.Expr.eval, List.getElem?_map, hslot]
    rfl
  | .binary op l r, b, h => by
    obtain ⟨bl, hl, br, hr, rfl⟩ := expr_binary.mp h
    simp only [Tree.Expr.eval, Bound.Expr.eval, eval_expr hcall hS env l hl,
      eval_expr hcall hS env r hr]
  | .call f args p, b, h => by
    obtain ⟨s, hs, -, bs, hbs, rfl⟩ := expr_call.mp h
    simp only [Tree.Expr.eval, Bound.Expr.eval, evalAll_exprs hcall hS env args hbs,
      hcall f s hs]

theorem evalAll_exprs (hcall : Links table tcall bcall) {slots : List String} (hS : slots <+: S)
    (env : Env) : (es : List Tree.Expr) → {bs : List Bound.Expr} →
    exprs table slots es = .ok bs →
    Tree.Expr.evalAll tcall env es = Bound.Expr.evalAll bcall (S.map env) bs
  | [], bs, h => by
    cases h
    rfl
  | e :: es, bs, h => by
    obtain ⟨b, hb, bs', hbs, rfl⟩ := exprs_cons.mp h
    simp only [Tree.Expr.evalAll, Bound.Expr.evalAll, eval_expr hcall hS env e hb,
      evalAll_exprs hcall hS env es hbs]

end

/-! ## Statements -/

/-- Both statements are left in the same way, and the cells have the words of their names. -/
def Agree (S : List String) (loops : List OpenLoop) (r : Signal (Option String) × Env)
    (r' : Signal Nat × List Int64) : Prop :=
  Signal.Alike (fun label? id => target? loops label? = some id) r.1 r'.1 ∧ r'.2 = S.map r.2

/-- A jump inside a new loop acts on it if its number does. If not it leaves both loops to the same
loop outside, whose number is another one. -/
theorem actsOn_iff {loops : List OpenLoop} {label? : Option String} {id : Nat}
    (hloops : ∀ l ∈ loops, l.id < id) {label : Option String} {target : Nat}
    (h : target? (⟨label?, id⟩ :: loops) label = some target) :
    Tree.actsOn label? label = true ∧ decide (target = id) = true ∨
      Tree.actsOn label? label = false ∧ decide (target = id) = false ∧
        target? loops label = some target := by
  cases label with
  | none =>
    cases h
    exact .inl ⟨rfl, by simp⟩
  | some label =>
    rw [target?, List.find?_cons] at h
    by_cases hl : label? = some label
    · simp only [hl, decide_true, Option.map_some, Option.some.injEq] at h
      exact .inl ⟨by simp [Tree.actsOn, hl], by simp [h]⟩
    · simp only [hl, decide_false] at h
      obtain ⟨l, hmem, rfl⟩ := exists_of_target? (some label) h
      exact .inr ⟨by simp [Tree.actsOn, hl], by simpa using Nat.ne_of_lt (hloops l hmem), h⟩

mutual

theorem exec_stmt (hcall : Links table tcall bcall) (hS : S.Nodup) (turns : Nat) :
    (s : Tree.Stmt) → {loops : List OpenLoop} → {scope : Scope} → {r : Bound.Stmt × Scope} →
    stmt table loops scope s = .ok r → r.2.slots <+: S → (∀ l ∈ loops, l.id < scope.loops) →
    (env : Env) →
    Outcome.Alike (Agree S loops) (s.exec tcall turns env) (r.1.exec bcall turns (S.map env))
  | .assign x e p, loops, scope, r, h, hr, hl, env => by
    obtain ⟨b, hb, rfl⟩ := stmt_assign.mp h
    have hslot := getElem?_of_isPrefix hr (scope.getElem?_assign x)
    have hlt : (scope.assign x).1 < (S.map env).length := by
      rw [List.length_map]
      exact (List.getElem?_eq_some_iff.mp hslot).1
    have hpre := (scope.grows_assign x).slots.trans hr
    rw [Tree.Stmt.exec, Bound.Stmt.exec, eval_expr hcall hpre env e hb]
    refine (Outcome.Alike.refl _).bind ?_
    rintro w _ rfl
    rw [if_pos hlt]
    exact .pure ⟨.next, (map_set hS hslot env w).symm⟩
  | .ifThen c body, loops, scope, r, h, hr, hl, env => by
    obtain ⟨bc, hc, rb, hb, rfl⟩ := stmt_ifThen.mp h
    have hpre := (stmts_grows body hb).slots.trans hr
    rw [Tree.Stmt.exec, Bound.Stmt.exec, eval_expr hcall hpre env c hc]
    refine (Outcome.Alike.refl _).bind ?_
    rintro w _ rfl
    by_cases hw : w = 0
    · rw [if_pos hw, if_pos hw]
      exact .pure ⟨.next, rfl⟩
    · rw [if_neg hw, if_neg hw]
      exact exec_stmts hcall hS turns body hb hr hl env
  | .ifElse c t e, loops, scope, r, h, hr, hl, env => by
    obtain ⟨bc, hc, rt, ht, re, he, rfl⟩ := stmt_ifElse.mp h
    have hgt := stmts_grows t ht
    have hpret := (stmts_grows e he).slots.trans hr
    rw [Tree.Stmt.exec, Bound.Stmt.exec, eval_expr hcall (hgt.slots.trans hpret) env c hc]
    refine (Outcome.Alike.refl _).bind ?_
    rintro w _ rfl
    by_cases hw : w = 0
    · rw [if_pos hw, if_pos hw]
      exact exec_stmts hcall hS turns e he hr
        (fun l hmem => Nat.lt_of_lt_of_le (hl l hmem) hgt.loops_le) env
    · rw [if_neg hw, if_neg hw]
      exact exec_stmts hcall hS turns t ht hpret hl env
  | .loop label? c body p, loops, scope, r, h, hr, hl, env => by
    obtain ⟨-, bc, hc, rb, hb, rfl⟩ := stmt_loop.mp h
    have hpre : scope.slots <+: S := (stmts_grows body hb).slots.trans hr
    have hinner : ∀ l ∈ (⟨label?, scope.loops⟩ :: loops : List OpenLoop),
        l.id < scope.loops + 1 := by
      rw [List.forall_mem_cons]
      exact ⟨Nat.lt_succ_self _, fun l hmem => Nat.lt_succ_of_lt (hl l hmem)⟩
    rw [Tree.Stmt.exec, Bound.Stmt.exec]
    refine Outcome.Alike.iterate (R := fun env cs => cs = S.map env) ?_ ?_
      (fun label target h => actsOn_iff hl h) turns rfl
    · rintro env _ rfl
      exact eval_expr hcall hpre env c hc
    · rintro env _ rfl
      exact exec_stmts hcall hS turns body hb hr hinner env
  | .jump j label? p, loops, scope, r, h, hr, hl, env => by
    obtain ⟨id, hid, rfl⟩ := stmt_jump.mp h
    exact .pure ⟨.jump j hid, rfl⟩
  | .expr e, loops, scope, r, h, hr, hl, env => by
    obtain ⟨b, hb, rfl⟩ := stmt_expr.mp h
    rw [Tree.Stmt.exec, Bound.Stmt.exec, eval_expr hcall hr env e hb]
    refine (Outcome.Alike.refl _).bind ?_
    rintro w _ rfl
    exact .pure ⟨.next, rfl⟩

theorem exec_stmts (hcall : Links table tcall bcall) (hS : S.Nodup) (turns : Nat) :
    (ss : List Tree.Stmt) → {loops : List OpenLoop} → {scope : Scope} →
    {rs : List Bound.Stmt × Scope} → stmts table loops scope ss = .ok rs → rs.2.slots <+: S →
    (∀ l ∈ loops, l.id < scope.loops) → (env : Env) →
    Outcome.Alike (Agree S loops) (Tree.Stmt.execAll tcall turns ss env)
      (Bound.Stmt.execAll bcall turns rs.1 (S.map env))
  | [], loops, scope, rs, h, hr, hl, env => by
    cases h
    exact .pure ⟨.next, rfl⟩
  | s :: ss, loops, scope, rs, h, hr, hl, env => by
    obtain ⟨r, hs, rs', hss, rfl⟩ := stmts_cons.mp h
    have hgs := stmt_grows s hs
    have hgss := stmts_grows ss hss
    rw [Tree.Stmt.execAll, Bound.Stmt.execAll]
    refine (exec_stmt hcall hS turns s hs (hgss.slots.trans hr) hl env).bind ?_
    rintro ⟨signal, env₁⟩ ⟨signal', cs⟩ ⟨hsignal, hcs⟩
    obtain rfl : cs = S.map env₁ := hcs
    cases hsignal with
    | next =>
      exact exec_stmts hcall hS turns ss hss hr
        (fun l hmem => Nat.lt_of_lt_of_le (hl l hmem) hgs.loops_le) env₁
    | jump j hid => exact .pure ⟨.jump j hid, rfl⟩

end

/-! ## Programs -/

/-- The function that a definition is bound to comes to what the definition comes to. -/
theorem run_definition (hcall : Links table tcall bcall) {i : Tree.Item} {body : List Tree.Stmt}
    {f : Bound.Function} (h : definition table i body = .ok f) (turns : Nat) (args : List Int64) :
    Tree.runBody i.params body tcall turns args = f.run bcall turns args := by
  obtain ⟨hp, rs, hrs, rfl⟩ := definition_eq_ok.mp h
  have hg := stmts_grows body hrs
  refine Outcome.Alike.eq ?_
  have hcells : Bound.Function.cells ⟨i.name, i.params.length, rs.2.slots, rs.2.loops, rs.1⟩ args
      = rs.2.slots.map (Env.start i.params args) :=
    (map_start hg.slots (hg.nodup hp) args).symm
  rw [Tree.runBody, Bound.Function.run, hcells]
  refine (exec_stmts hcall (hg.nodup hp) turns body hrs (List.prefix_refl _) nofun _).bind ?_
  rintro ⟨signal, env⟩ ⟨signal', cs⟩ ⟨hsignal, -⟩
  cases hsignal with
  | next => exact .pure rfl
  | jump j hid => exact .undefined

variable {p : Program} {b : Bound.Program}

/-- On every budget calls come to what they come to when they are bound. -/
theorem links_call (h : resolve p = .ok b) (budget : Nat) :
    Links (tableOfItems p.items) (p.call budget) (b.call budget) := by
  obtain ⟨-, -, fs, hfs, rfl⟩ := resolve_eq_ok.mp h
  induction budget with
  | zero => exact fun _ _ _ => rfl
  | succ budget ih =>
    intro name s hs
    rw [lookup_tableOfItems] at hs
    obtain ⟨i, hi, rfl⟩ := Option.map_eq_some_iff.mp hs
    have hname : i.name = name := by simpa using List.find?_some hi
    funext args
    simp only [Program.call, Program.item?, hi, Tree.Item.run]
    cases hb : i.body? with
    | none =>
      simp only [Signature.callee, Signature.ofItem, Tree.Item.isDeclaration, hb, hname]
      rfl
    | some body =>
      obtain ⟨f, hf, hd⟩ := find?_definitions hfs hi hb
      have hparams : f.params = i.params.length := Defines.params ⟨body, hb, hd⟩
      simp only [Signature.callee, Signature.ofItem, Tree.Item.isDeclaration, hb,
        Option.isNone_some, Bool.false_eq_true, if_false, Bound.Program.call,
        Bound.Program.function?, hf, hparams, run_definition ih hd]

/-- A bound program comes to what its tree comes to, on every budget. -/
theorem run_resolve (h : resolve p = .ok b) : b.run = p.run := by
  funext budget
  obtain ⟨-, hm, -⟩ := resolve_eq_ok.mp h
  obtain ⟨s, hs, ho, -⟩ := checkMain_eq_ok.mp hm
  have hcall := links_call h budget "main" s hs
  rw [Signature.callee, ho] at hcall
  rw [Bound.Program.run, Program.run, hcall]

end Looplet.Resolve
