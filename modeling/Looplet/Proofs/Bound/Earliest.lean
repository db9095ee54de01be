import Looplet.Proofs.Bound.Faults
import Looplet.Proofs.Tree.Anchors

/-!
# The first fault is reported

What is reported of a program that is not bound is said by `Program.Reported`: the first item whose
name occurred before; or else what is wrong with `main`; or else, of all faults in the bodies, the
one that stands first in the text. The last needs that faults are found in the order in which they
stand: their positions are some of those of the anchors, which increase in the tree of a text
(`ordered_faults`).
-/

namespace Looplet

open Resolve (Error)

/-! ## Faults of a program -/

/-- The body of an item, or its list of parameters, breaks a rule. Of the parameters that repeat one
before them only the first is a fault. -/
inductive Tree.Item.Breaks (items : List Tree.Item) (i : Tree.Item) : Error → Prop where
  | param {body : List Tree.Stmt} {before after : List String} {x : String}
    (hb : i.body? = some body) (hp : i.params = before ++ x :: after) (hn : before.Nodup)
    (hx : x ∈ before) : Breaks items i ⟨i.position, .repeatedParam x i.name⟩
  | mark {body : List Tree.Stmt} {before after : List Mark} {m : Mark} {e : Error}
    (hb : i.body? = some body) (hm : Tree.Stmt.marksOfAll [] body = before ++ m :: after)
    (h : m.Breaks items (i.params ++ assignedIn before) e) : Breaks items i e

/-- A definition of the program breaks a rule. -/
def Program.Breaks (p : Program) (e : Error) : Prop :=
  ∃ i ∈ p.items, i.Breaks p.items e

/-- The fault of the parameters of an item, if there is one. -/
def Tree.Item.paramFault? (i : Tree.Item) : Option Error :=
  match Resolve.checkParams i.name i.position [] i.params with
  | .ok () => none
  | .error e => some e

/-- The faults of an item, in the order of the text. -/
def Tree.Item.faults (items : List Tree.Item) (i : Tree.Item) : List Error :=
  match i.body? with
  | none => []
  | some body =>
    i.paramFault?.toList ++ Looplet.faults items i.params (Tree.Stmt.marksOfAll [] body)

/-- The faults of the definitions in a program, in the order of the text. -/
def Program.faults (p : Program) : List Error :=
  p.items.flatMap (Tree.Item.faults p.items)

namespace Resolve

theorem checkParams_eq_error {f : String} {p : Position} {seen xs : List String} {e : Error}
    (hn : seen.Nodup) : checkParams f p seen xs = .error e ↔ ∃ before x after,
      xs = before ++ x :: after ∧ (seen ++ before).Nodup ∧ x ∈ seen ++ before ∧
        e = ⟨p, .repeatedParam x f⟩ := by
  induction xs generalizing seen with
  | nil => simp [checkParams]
  | cons y ys ih =>
    rw [checkParams]
    by_cases hy : y ∈ seen
    · rw [if_pos hy]
      constructor
      · rintro ⟨⟩
        exact ⟨[], y, ys, rfl, by simpa using hn, by simpa using hy, rfl⟩
      · rintro ⟨before, x, after, hxs, hnodup, -, rfl⟩
        cases before with
        | nil =>
          cases hxs
          rfl
        | cons b before =>
          cases hxs
          exact absurd rfl ((List.nodup_append.mp hnodup).2.2 y hy y (List.mem_cons_self ..))
    · have hn' : (seen ++ [y]).Nodup := by
        refine List.nodup_append.mpr ⟨hn, List.pairwise_singleton .., ?_⟩
        rintro a ha b hb rfl
        exact hy (List.mem_singleton.mp hb ▸ ha)
      rw [if_neg hy, ih hn']
      constructor
      · rintro ⟨before, x, after, rfl, hnodup, hx, rfl⟩
        rw [List.append_assoc, List.singleton_append] at hnodup hx
        exact ⟨y :: before, x, after, rfl, hnodup, hx, rfl⟩
      · rintro ⟨before, x, after, hxs, hnodup, hx, rfl⟩
        cases before with
        | nil =>
          cases hxs
          exact absurd (by simpa using hx) hy
        | cons b before =>
          cases hxs
          refine ⟨before, x, after, rfl, ?_, ?_, rfl⟩
          all_goals rwa [List.append_assoc, List.singleton_append]

end Resolve

theorem paramFault?_eq_some {i : Tree.Item} {e : Error} :
    i.paramFault? = some e ↔ ∃ before x after, i.params = before ++ x :: after ∧ before.Nodup ∧
      x ∈ before ∧ e = ⟨i.position, .repeatedParam x i.name⟩ := by
  have herror : i.paramFault? = some e ↔
      Resolve.checkParams i.name i.position [] i.params = .error e := by
    unfold Tree.Item.paramFault?
    cases Resolve.checkParams i.name i.position [] i.params <;> simp
  rw [herror, Resolve.checkParams_eq_error List.nodup_nil]
  rfl

theorem mem_itemFaults {items : List Tree.Item} (hn : (items.map Tree.Item.name).Nodup)
    {i : Tree.Item} {e : Error} : e ∈ i.faults items ↔ i.Breaks items e := by
  unfold Tree.Item.faults
  cases hb : i.body? with
  | none =>
    constructor
    · exact nofun
    · intro h
      cases h with
      | param hb' | mark hb' =>
        rw [hb] at hb'
        cases hb'
  | some body =>
    rw [List.mem_append, Option.mem_toList, paramFault?_eq_some, mem_faults hn]
    constructor
    · rintro (⟨before, x, after, hp, hnodup, hx, rfl⟩ | ⟨before, m, after, hm, h⟩)
      · exact .param hb hp hnodup hx
      · exact .mark hb hm h
    · intro h
      cases h with
      | param _ hp hnodup hx => exact .inl ⟨_, _, _, hp, hnodup, hx, rfl⟩
      | mark hb' hm h =>
        rw [hb] at hb'
        cases hb'
        exact .inr ⟨_, _, _, hm, h⟩

theorem mem_programFaults {p : Program} (hn : (p.items.map Tree.Item.name).Nodup) {e : Error} :
    e ∈ p.faults ↔ p.Breaks e := by
  rw [Program.faults, List.mem_flatMap]
  exact exists_congr fun i => and_congr_right fun _ => mem_itemFaults hn

namespace Resolve

variable {items : List Tree.Item}

theorem definition_reports {i : Tree.Item} {body : List Tree.Stmt} (hb : i.body? = some body) :
    Reports (definition (tableOfItems items) i body) (i.faults items) := by
  have hparams : Reports (checkParams i.name i.position [] i.params) i.paramFault?.toList := by
    unfold Tree.Item.paramFault?
    cases checkParams i.name i.position [] i.params <;> rfl
  have hbody : Reports (stmts (tableOfItems items) [] ⟨i.params, 0⟩ body)
      (faults items i.params (Tree.Stmt.marksOfAll [] body)) := stmts_reports body
  rw [definition, Tree.Item.faults, hb]
  exact hparams.bind fun _ _ => hbody.map _

/-- Binding definitions reports the first fault that there is in any of them. -/
theorem definitions_reports (is : List Tree.Item) :
    Reports (definitions (tableOfItems items) is) (is.flatMap (Tree.Item.faults items)) := by
  induction is with
  | nil => rfl
  | cons i is ih =>
    rw [definitions, List.flatMap_cons]
    cases hb : i.body? with
    | none =>
      have hnone : i.faults items = [] := by rw [Tree.Item.faults, hb]
      rw [hnone]
      exact ih
    | some body => exact (definition_reports hb).bind fun _ _ => ih.map _

end Resolve

/-! ## Where faults stand -/

/-- Where a mark stands that can be a fault. -/
def Mark.position? : Mark → Option Position
  | use _ p => some p
  | assigned _ => none
  | call _ _ p => some p
  | jump _ _ _ p => some p
  | loop _ _ p => some p

theorem position?_of_fault? {items : List Tree.Item} {known : List String} {m : Mark} {e : Error}
    (h : m.fault? items known = some e) : m.position? = some e.position := by
  unfold Mark.fault? at h
  repeat' split at h
  all_goals
    cases h
    try rfl

theorem faults_positions {items : List Tree.Item} {known : List String} (ms : List Mark) :
    ((faults items known ms).map Error.position).Sublist (ms.filterMap Mark.position?) := by
  induction ms generalizing known with
  | nil => exact List.nil_sublist _
  | cons m ms ih =>
    rw [faults, List.map_append]
    cases hm : m.fault? items known with
    | none =>
      refine ih.trans ?_
      exact (List.sublist_cons_self m ms).filterMap _
    | some e =>
      rw [List.filterMap_cons_some (position?_of_fault? hm)]
      exact ih.cons_cons _

namespace Tree

mutual

theorem Expr.positions : (e : Expr) →
    e.marks.filterMap Mark.position? = e.anchors.map Token.position
  | .int v => rfl
  | .var x p => rfl
  | .binary op l r => by
    rw [Expr.marks, Expr.anchors, List.filterMap_append, List.map_append, l.positions, r.positions]
  | .call f args p => by
    rw [Expr.marks, Expr.anchors, List.map_cons, ← Expr.positionsOfAll args]
    rfl

theorem Expr.positionsOfAll : (es : List Expr) →
    (Expr.marksOfAll es).filterMap Mark.position? = (Expr.anchorsOfAll es).map Token.position
  | [] => rfl
  | e :: es => by
    rw [Expr.marksOfAll, Expr.anchorsOfAll, List.filterMap_append, List.map_append, e.positions,
      Expr.positionsOfAll es]

end

mutual

/-- Only the targets of assignments are anchors and no faults. -/
theorem Stmt.positions {around : List (Option String)} : (s : Stmt) →
    ((s.marks around).filterMap Mark.position?).Sublist (s.anchors.map Token.position)
  | .assign x e p => by
    rw [Stmt.marks, Stmt.anchors, List.filterMap_append, e.positions, List.map_cons]
    exact (List.append_nil (e.anchors.map Token.position)).symm ▸ (List.Sublist.refl _).cons _
  | .ifThen c body => by
    rw [Stmt.marks, Stmt.anchors, List.filterMap_append, List.map_append, c.positions]
    exact (List.Sublist.refl _).append (Stmt.positionsOfAll body)
  | .ifElse c t e => by
    rw [Stmt.marks, Stmt.anchors, List.filterMap_append, List.filterMap_append, List.map_append,
      List.map_append, c.positions]
    exact (List.Sublist.refl _).append ((Stmt.positionsOfAll t).append (Stmt.positionsOfAll e))
  | .loop label? c body p => by
    have hlabel : (loopAnchor label? p).position = p := by
      cases label? <;> rfl
    rw [Stmt.marks, Stmt.anchors, List.map_cons, List.map_append, ← c.positions, hlabel]
    change (p :: (c.marks ++ _).filterMap Mark.position?).Sublist _
    rw [List.filterMap_append]
    exact ((List.Sublist.refl _).append (Stmt.positionsOfAll body)).cons_cons _
  | .jump j label? p => by
    cases j <;> exact List.Sublist.refl _
  | .expr e => by
    rw [Stmt.marks, Stmt.anchors, e.positions]

theorem Stmt.positionsOfAll {around : List (Option String)} : (ss : List Stmt) →
    ((Stmt.marksOfAll around ss).filterMap Mark.position?).Sublist
      ((Stmt.anchorsOfAll ss).map Token.position)
  | [] => List.nil_sublist _
  | s :: ss => by
    rw [Stmt.marksOfAll, Stmt.anchorsOfAll, List.filterMap_append, List.map_append]
    exact s.positions.append (Stmt.positionsOfAll ss)

end

/-- The faults of an item stand at its anchors, those of its parameters at its own. -/
theorem Item.positions {items : List Item} (i : Item) :
    ((i.faults items).map Error.position).Sublist (i.anchors.map Token.position) := by
  unfold Item.faults Item.anchors
  cases i.body? with
  | none => exact List.nil_sublist _
  | some body =>
    have hbody : ((Looplet.faults items i.params (Stmt.marksOfAll [] body)).map
        Error.position).Sublist ((Stmt.anchorsOfAll body).map Token.position) :=
      (faults_positions _).trans (Stmt.positionsOfAll body)
    rw [List.map_append, List.map_cons, Option.getD_some]
    cases hp : i.paramFault? with
    | none => exact hbody.cons _
    | some e =>
      obtain ⟨before, x, after, -, -, -, rfl⟩ := paramFault?_eq_some.mp hp
      exact hbody.cons_cons _

end Tree

theorem Program.positions (p : Program) :
    (p.faults.map Error.position).Sublist (p.anchors.map Token.position) := by
  unfold Program.faults Program.anchors
  generalize p.items = items
  suffices h : ∀ is : List Tree.Item, ((is.flatMap (Tree.Item.faults items)).map
      Error.position).Sublist ((is.flatMap Tree.Item.anchors).map Token.position) from h items
  intro is
  induction is with
  | nil => exact List.nil_sublist _
  | cons i is ih =>
    rw [List.flatMap_cons, List.flatMap_cons, List.map_append, List.map_append]
    exact i.positions.append ih

/-- The faults in the tree of a text stand one after the other. -/
theorem ordered_faults {src : String} {p : Program} (h : parse src = .ok p) :
    p.faults.Pairwise fun e e' => e.position.Before e'.position := by
  have hanchors : (p.anchors.map Token.position).Pairwise Position.Before :=
    List.pairwise_map.mpr (ordered_anchors h)
  exact List.pairwise_map.mp (hanchors.sublist p.positions)

/-! ## The table and `main` -/

/-- What is wrong with an item whose name an item before it has. -/
def Tree.Item.clash (first again : Tree.Item) : Resolve.Violation :=
  match first.isDeclaration, again.isDeclaration with
  | true, true => .declaredTwice again.name
  | false, false => .definedTwice again.name
  | _, _ => .declaredAndDefined again.name first.position

namespace Resolve

theorem repeatedItem_eq_clash (first again : Tree.Item) :
    repeatedItem again.name (Signature.ofItem first) (Signature.ofItem again).origin
      = first.clash again := by
  unfold repeatedItem Tree.Item.clash Signature.ofItem
  cases first.isDeclaration <;> cases again.isDeclaration <;> rfl

/-- Items are added to a table up to the first whose name it has. -/
theorem tableFrom_eq_error {seen items : List Tree.Item} {e : Error}
    (hn : (seen.map Tree.Item.name).Nodup) (h : tableFrom (tableOfItems seen) items = .error e) :
    ∃ before again after first, items = before ++ again :: after ∧
      ((seen ++ before).map Tree.Item.name).Nodup ∧ first ∈ seen ++ before ∧
      first.name = again.name ∧ e = ⟨again.position, first.clash again⟩ := by
  induction items generalizing seen with
  | nil => cases h
  | cons i items ih =>
    rw [tableFrom, lookup_tableOfItems] at h
    cases hi : seen.find? fun j => j.name = i.name with
    | some first =>
      simp only [hi, Option.map_some, Except.error.injEq, repeatedItem_eq_clash] at h
      refine ⟨[], i, items, first, rfl, by simpa using hn, ?_, by simpa using List.find?_some hi,
        h.symm⟩
      simpa using List.mem_of_find?_eq_some hi
    | none =>
      have hi' : ∀ j ∈ seen, j.name ≠ i.name := by simpa using hi
      have hn' : ((seen ++ [i]).map Tree.Item.name).Nodup := by
        rw [List.map_append, List.nodup_append]
        refine ⟨hn, List.pairwise_singleton .., ?_⟩
        rintro a ha b hb rfl
        obtain ⟨j, hj, hname⟩ := List.mem_map.mp ha
        exact hi' j hj (hname.trans (List.mem_singleton.mp hb))
      simp only [hi, Option.map_none] at h
      have htable : tableOfItems seen ++ [(i.name, Signature.ofItem i)]
          = tableOfItems (seen ++ [i]) := by simp [tableOfItems]
      rw [htable] at h
      obtain ⟨before, again, after, first, rfl, hnodup, hfirst, hname, rfl⟩ := ih hn' h
      rw [List.append_assoc, List.singleton_append] at hnodup hfirst
      exact ⟨i :: before, again, after, first, rfl, hnodup, hfirst, hname, rfl⟩

end Resolve

/-! ## What is reported -/

/-- What is reported of a program that is not bound. -/
inductive Program.Reported (p : Program) : Error → Prop where
  | again {before after : List Tree.Item} {first again : Tree.Item}
    (hp : p.items = before ++ again :: after) (hn : (before.map Tree.Item.name).Nodup)
    (hf : first ∈ before) (hname : first.name = again.name) :
    Reported p ⟨again.position, first.clash again⟩
  | noMain (hn : (p.items.map Tree.Item.name).Nodup) (h : ∀ i ∈ p.items, i.name ≠ "main") :
    Reported p ⟨Position.start, .mainMissing⟩
  | declaredMain {i : Tree.Item} (hn : (p.items.map Tree.Item.name).Nodup) (hi : i ∈ p.items)
    (hname : i.name = "main") (hd : i.isDeclaration = true) :
    Reported p ⟨i.position, .mainDeclared⟩
  | mainParams {i : Tree.Item} (hn : (p.items.map Tree.Item.name).Nodup) (hi : i ∈ p.items)
    (hname : i.name = "main") (hd : i.isDeclaration = false) (hparams : i.params ≠ []) :
    Reported p ⟨i.position, .mainParams i.params.length⟩
  | fault {i : Tree.Item} {e : Error} (hn : (p.items.map Tree.Item.name).Nodup) (hi : i ∈ p.items)
    (hname : i.name = "main") (hd : i.isDeclaration = false) (hparams : i.params = [])
    (he : p.Breaks e) (hfirst : ∀ e', p.Breaks e' → e' = e ∨ e.position.Before e'.position) :
    Reported p e

variable {src : String} {p : Program} {e : Error}

theorem resolve_eq_error (h : resolve p = .error e) :
    Resolve.tableOf p = .error e ∨ (p.items.map Tree.Item.name).Nodup ∧
      (Resolve.checkMain (Resolve.tableOfItems p.items) = .error e ∨
        Resolve.checkMain (Resolve.tableOfItems p.items) = .ok () ∧
          Resolve.definitions (Resolve.tableOfItems p.items) p.items = .error e) := by
  rw [resolve, bind_eq_error] at h
  rcases h with htable | ⟨table, htable, h⟩
  · exact .inl htable
  obtain ⟨hn, rfl⟩ := Resolve.tableOf_eq_ok.mp htable
  rcases bind_eq_error.mp h with hmain | ⟨u, hmain, h⟩
  · exact .inr ⟨hn, .inl hmain⟩
  · rcases bind_eq_error.mp h with hbodies | ⟨fs, -, h⟩
    · exact .inr ⟨hn, .inr ⟨hmain, hbodies⟩⟩
    · cases h

theorem reported_of_checkMain (hn : (p.items.map Tree.Item.name).Nodup)
    (h : Resolve.checkMain (Resolve.tableOfItems p.items) = .error e) : p.Reported e := by
  rw [Resolve.checkMain, Resolve.lookup_tableOfItems] at h
  cases hmain : p.items.find? fun i => i.name = "main" with
  | none =>
    simp only [hmain, Option.map_none, Except.error.injEq] at h
    exact h ▸ .noMain hn (by simpa using hmain)
  | some i =>
    have hi := List.mem_of_find?_eq_some hmain
    have hname : i.name = "main" := by simpa using List.find?_some hmain
    cases hd : i.isDeclaration with
    | true =>
      simp only [hmain, Option.map_some, Resolve.Signature.ofItem, hd, if_true,
        Except.error.injEq] at h
      exact h ▸ .declaredMain hn hi hname hd
    | false =>
      by_cases hparams : i.params = []
      · simp [hmain, Resolve.Signature.ofItem, hd, hparams] at h
      · simp only [hmain, Option.map_some, Resolve.Signature.ofItem, hd, reduceCtorEq, if_false,
          Bool.false_eq_true, ne_eq, List.length_eq_zero_iff, hparams, not_false_eq_true, if_true,
          Except.error.injEq] at h
        exact h ▸ .mainParams hn hi hname hd hparams

/-- Bodies are bound up to the first of the faults, which stand one after the other. -/
theorem reported_of_definitions (hp : parse src = .ok p)
    (hn : (p.items.map Tree.Item.name).Nodup)
    (hmain : Resolve.checkMain (Resolve.tableOfItems p.items) = .ok ())
    (h : Resolve.definitions (Resolve.tableOfItems p.items) p.items = .error e) :
    p.Reported e := by
  obtain ⟨i, hi, hname, hd, hparams⟩ := (Resolve.checkMain_tableOfItems hn).mp hmain
  have hreports : Resolve.Reports (Resolve.definitions (Resolve.tableOfItems p.items) p.items)
      p.faults := Resolve.definitions_reports p.items
  rw [h] at hreports
  obtain ⟨more, hfaults⟩ : ∃ more, p.faults = e :: more := List.head?_eq_some_iff.mp hreports
  have hbefore := hfaults ▸ ordered_faults hp
  refine .fault hn hi hname hd hparams ((mem_programFaults hn).mp ?_) fun e' he' => ?_
  · exact hfaults ▸ List.mem_cons_self ..
  · rw [← mem_programFaults hn, hfaults, List.mem_cons] at he'
    exact he'.imp_right (List.rel_of_pairwise_cons hbefore)

/-- Of a text that is read as a program and not bound, the first item whose name occurred before is
reported; or else what is wrong with `main`; or else the fault in the bodies that stands before all
others. -/
theorem reported_of_resolve {src : String} {p : Program} {e : Error} (hp : parse src = .ok p)
    (h : resolve p = .error e) : p.Reported e := by
  rcases resolve_eq_error h with htable | ⟨hn, hmain | ⟨hmain, hbodies⟩⟩
  · obtain ⟨before, again, after, first, hitems, hnodup, hfirst, hname, rfl⟩ :=
      @Resolve.tableFrom_eq_error [] p.items e List.nodup_nil htable
    exact .again hitems hnodup hfirst hname
  · exact reported_of_checkMain hn hmain
  · exact reported_of_definitions hp hn hmain hbodies

/-- A text with a fault at each end, the first of them at the variable `m`. -/
def faulty : String :=
  "func main() \x7b n <- 1; f(n, n + m); break; \x7d func f(x, x) \x7b y; \x7d"

theorem faulty_reported :
    ∃ p, parse faulty = .ok p ∧ p.Reported ⟨⟨1, 32⟩, .unassigned "m"⟩ := by
  have hread : (parse faulty).map (fun p => (resolve p).map fun _ => ())
      = .ok (.error ⟨⟨1, 32⟩, .unassigned "m"⟩) := by
    decide +kernel
  obtain ⟨p, hp⟩ : ∃ p, parse faulty = .ok p := exists_ok (by decide +kernel)
  rw [hp] at hread
  cases h : resolve p with
  | ok b => simp [Except.map, h] at hread
  | error e =>
    obtain rfl : e = ⟨⟨1, 32⟩, .unassigned "m"⟩ := by simpa [Except.map, h] using hread
    exact ⟨p, hp, reported_of_resolve hp h⟩

end Looplet
