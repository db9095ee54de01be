import Looplet.Proofs.Lowering.Draft

/-!
# Lowered statements

In a live draft a statement lowers to the parts of `Draft` put together, one lemma for each form of
statement. The draft after it is live again and has only grown (`stmts_grows`).
-/

namespace Looplet.Lowering

open Code (Operand Instr)
open Draft

variable {ctx : Context} {loops : List OpenLoop} {d d' : Draft}

/-- Statements that take live drafts to live drafts that have grown. -/
def Grow (ctx : Context) (loops : List OpenLoop) (ss : List Bound.Stmt) : Prop :=
  ∀ d d', d.Live → stmts ctx loops d ss = .ok d' → d'.Live ∧ d.Grows d'

theorem stmt_store (hd : d.Live) {slot : Nat} {e : Bound.Expr} :
    stmt ctx loops d (.store slot e) = .ok d' ↔ ∃ f, expr ctx d.next e = .ok f ∧
      ∃ cell, ctx.cell slot = .ok cell ∧
        d' = (d.pushFragment f).push [.store f.result cell] := by
  have hp : ∀ f : Fragment Operand, (d.pushFragment f).current < (d.pushFragment f).blocks.length :=
    fun f => by simpa using hd.lt
  simp only [stmt, emitFragment_of_lt hd.lt, ok_bind, emit_of_lt (hp _), bind_eq_ok,
    Except.ok.injEq, eq_comm (a := d')]

theorem stmt_expr (hd : d.Live) {e : Bound.Expr} :
    stmt ctx loops d (.expr e) = .ok d' ↔ ∃ f, expr ctx d.next e = .ok f ∧
      d' = d.pushFragment f := by
  simp only [stmt, emitFragment_of_lt hd.lt, bind_eq_ok, Except.ok.injEq, eq_comm (a := d')]

theorem stmt_jump (hd : d.Live) {j : Jump} {id : Nat} :
    stmt ctx loops d (.jump j id) = .ok d' ↔ ∃ l, loops.find? (fun l => l.id = id) = some l ∧
      d' = d.dead (l.target j) := by
  simp only [stmt]
  cases loops.find? (fun l => l.id = id) with
  | none => simp
  | some l =>
    have hp : (d.push [.jump (l.target j)]).current < (d.push [.jump (l.target j)]).blocks.length :=
      by simpa using hd.lt
    simp only [emit_of_lt hd.lt, reserve_of_lt hp, ok_bind, pure_eq_ok, Option.some.injEq]
    constructor
    · rintro rfl
      exact ⟨l, rfl, rfl⟩
    · rintro ⟨_, rfl, rfl⟩
      rfl

/-- After the first part of a conditional the second one is begun in a block that is empty. -/
theorem fresh_elsePart (hd : d.Live) {f : Fragment Operand} {t : List Bound.Stmt} {d₁ : Draft}
    (ht : Grow ctx loops t) (h : stmts ctx loops (d.thenPart f) t = .ok d₁) (target : Nat) :
    d₁.Live ∧ (d₁.leave target (d.blocks.length + 1)).Fresh := by
  obtain ⟨hfresh, hspare, -⟩ := fresh_thenPart hd.lt f
  obtain ⟨hd₁, hg⟩ := ht _ _ hfresh.live h
  exact ⟨hd₁, ((hg.spare hspare).push _).fresh⟩

theorem stmt_ifElse (hd : d.Live) {c : Bound.Expr} {t e : List Bound.Stmt}
    (ht : Grow ctx loops t) (he : Grow ctx loops e) :
    stmt ctx loops d (.ifElse c t e) = .ok d' ↔ ∃ f, condition ctx d.next c = .ok f ∧
      ∃ d₁, stmts ctx loops (d.thenPart f) t = .ok d₁ ∧
      ∃ d₂, stmts ctx loops (d₁.leave (d.blocks.length + 2) (d.blocks.length + 1)) e = .ok d₂ ∧
        d' = d₂.leave (d.blocks.length + 2) (d.blocks.length + 2) := by
  have h1 : ∀ f : Fragment Operand, emitFragment { d with ifs := d.ifs + 1 } f
      = .ok ({ d with ifs := d.ifs + 1 }.pushFragment f) :=
    fun f => emitFragment_of_lt (d := { d with ifs := d.ifs + 1 }) hd.lt f
  have h2 : ∀ f : Fragment Operand, ({ d with ifs := d.ifs + 1 }.pushFragment f).reserve
      (ifNames d.ifs) = .ok (({ d with ifs := d.ifs + 1 }.pushFragment f).append (ifNames d.ifs)) :=
    fun f => reserve_of_lt (by simpa using hd.lt) _
  have h3 : ∀ (f : Fragment Operand) (is : List Instr),
      (({ d with ifs := d.ifs + 1 }.pushFragment f).append (ifNames d.ifs)).emit is
        = .ok ((({ d with ifs := d.ifs + 1 }.pushFragment f).append (ifNames d.ifs)).push is) :=
    fun f is => emit_of_lt (by simpa using Nat.lt_add_right _ hd.lt) is
  simp only [stmt, h1, h2, h3, ok_bind, bind_eq_ok, pure_eq_ok]
  constructor
  · rintro ⟨f, hf, d₁, ht₁, x, hx, d₂, he₂, y, hy, rfl⟩
    obtain ⟨hd₁, helse⟩ := fresh_elsePart hd ht ht₁ (d.blocks.length + 2)
    rw [hd₁.close] at hx
    cases hx
    obtain ⟨hd₂, -⟩ := he _ _ helse.live he₂
    rw [hd₂.close] at hy
    cases hy
    exact ⟨f, hf, d₁, ht₁, d₂, he₂, rfl⟩
  · rintro ⟨f, hf, d₁, ht₁, d₂, he₂, rfl⟩
    obtain ⟨hd₁, helse⟩ := fresh_elsePart hd ht ht₁ (d.blocks.length + 2)
    obtain ⟨hd₂, -⟩ := he _ _ helse.live he₂
    exact ⟨f, hf, d₁, ht₁, _, hd₁.close _, d₂, he₂, _, hd₂.close _, rfl⟩

/-- The body of a loop is begun in a block that is empty. -/
theorem fresh_loopBody (hd : d.Live) (id : Nat) (f : Fragment Operand) :
    ((d.loopHead id).loopBody f).Fresh :=
  (((fresh_loopHead hd.lt id).2.1.pushFragment f).push _).fresh

theorem stmt_loop (hd : d.Live) {id : Nat} {c : Bound.Expr} {body : List Bound.Stmt}
    (hb : Grow ctx (⟨id, d.blocks.length, d.blocks.length + 2⟩ :: loops) body) :
    stmt ctx loops d (.loop id c body) = .ok d' ↔ ∃ f, condition ctx d.next c = .ok f ∧
      ∃ d₁, stmts ctx (⟨id, d.blocks.length, d.blocks.length + 2⟩ :: loops)
          ((d.loopHead id).loopBody f) body = .ok d₁ ∧
        d' = d₁.leave d.blocks.length (d.blocks.length + 2) := by
  have h1 : ∀ is : List Instr, (d.append (loopNames id)).emit is
      = .ok ((d.append (loopNames id)).push is) :=
    fun is => emit_of_lt (by simpa using Nat.lt_add_right _ hd.lt) is
  have hlt : (d.loopHead id).current < (d.loopHead id).blocks.length :=
    (fresh_loopHead hd.lt id).1.live.lt
  have h2 : ∀ f : Fragment Operand, (((d.append (loopNames id)).push [.jump d.blocks.length]).moveTo
      d.blocks.length).emitFragment f = .ok ((d.loopHead id).pushFragment f) :=
    fun f => emitFragment_of_lt hlt f
  have h3 : ∀ (f : Fragment Operand) (is : List Instr), ((d.loopHead id).pushFragment f).emit is
      = .ok (((d.loopHead id).pushFragment f).push is) :=
    fun f is => emit_of_lt (by simpa using hlt) is
  simp only [stmt, reserve_of_lt hd.lt, h1, h2, h3, ok_bind, bind_eq_ok, pure_eq_ok]
  constructor
  · rintro ⟨f, hf, d₁, hb₁, x, hx, rfl⟩
    obtain ⟨hd₁, -⟩ := hb _ _ (fresh_loopBody hd id f).live hb₁
    rw [hd₁.close] at hx
    cases hx
    exact ⟨f, hf, d₁, hb₁, rfl⟩
  · rintro ⟨f, hf, d₁, hb₁, rfl⟩
    obtain ⟨hd₁, -⟩ := hb _ _ (fresh_loopBody hd id f).live hb₁
    exact ⟨f, hf, d₁, hb₁, _, hd₁.close _, rfl⟩

theorem stmts_cons {s : Bound.Stmt} {ss : List Bound.Stmt} :
    stmts ctx loops d (s :: ss) = .ok d' ↔ ∃ d₁, stmt ctx loops d s = .ok d₁ ∧
      stmts ctx loops d₁ ss = .ok d' := by
  simp only [stmts, bind_eq_ok]

/-! ## Growth -/

/-- The drafts on the way through a conditional: its parts are begun in empty blocks and only grow,
and the block after it stays empty. -/
structure Choice (d : Draft) (f : Fragment Operand) (d₁ d₂ : Draft) : Prop where
  thenFresh : (d.thenPart f).Fresh
  thenLive : d₁.Live
  thenGrows : (d.thenPart f).Grows d₁
  elseFresh : (d₁.leave (d.blocks.length + 2) (d.blocks.length + 1)).Fresh
  elseLive : d₂.Live
  elseGrows : (d₁.leave (d.blocks.length + 2) (d.blocks.length + 1)).Grows d₂
  exit : d₂.Spare (d.blocks.length + 2)

theorem choice_ifElse (hd : d.Live) {f : Fragment Operand} {t e : List Bound.Stmt} {d₁ d₂ : Draft}
    (ht : Grow ctx loops t) (he : Grow ctx loops e)
    (h₁ : stmts ctx loops (d.thenPart f) t = .ok d₁)
    (h₂ : stmts ctx loops (d₁.leave (d.blocks.length + 2) (d.blocks.length + 1)) e = .ok d₂) :
    Choice d f d₁ d₂ := by
  obtain ⟨hthen, -, hexit⟩ := fresh_thenPart hd.lt f
  obtain ⟨hd₁, hg₁⟩ := ht _ _ hthen.live h₁
  obtain ⟨-, helse⟩ := fresh_elsePart hd ht h₁ (d.blocks.length + 2)
  obtain ⟨hd₂, hg₂⟩ := he _ _ helse.live h₂
  exact ⟨hthen, hd₁, hg₁, helse, hd₂, hg₂, hg₂.spare ((hg₁.spare hexit).leave _ (by omega))⟩

/-- The drafts on the way through a loop: its condition and its body are begun in empty blocks and
only grow, and the block after it stays empty. -/
structure Turn (d : Draft) (id : Nat) (f : Fragment Operand) (d₁ : Draft) : Prop where
  headFresh : (d.loopHead id).Fresh
  bodyFresh : ((d.loopHead id).loopBody f).Fresh
  bodyExit : ((d.loopHead id).loopBody f).Spare (d.blocks.length + 2)
  live : d₁.Live
  grows : ((d.loopHead id).loopBody f).Grows d₁
  exit : d₁.Spare (d.blocks.length + 2)

theorem turn_loop (hd : d.Live) {id : Nat} {f : Fragment Operand} {body : List Bound.Stmt}
    {d₁ : Draft} (hb : Grow ctx (⟨id, d.blocks.length, d.blocks.length + 2⟩ :: loops) body)
    (h₁ : stmts ctx (⟨id, d.blocks.length, d.blocks.length + 2⟩ :: loops)
      ((d.loopHead id).loopBody f) body = .ok d₁) : Turn d id f d₁ := by
  obtain ⟨hhead, -, hexit⟩ := fresh_loopHead hd.lt id
  have hbody := fresh_loopBody hd id f
  obtain ⟨hd₁, hg₁⟩ := hb _ _ hbody.live h₁
  have hexit₁ : ((d.loopHead id).loopBody f).Spare (d.blocks.length + 2) :=
    ((hexit.pushFragment f).push _).moveTo (by simp [loopHead, leave])
  exact ⟨hhead, hbody, hexit₁, hd₁, hg₁, hg₁.spare hexit₁⟩

theorem grows_loopBody (d : Draft) (id : Nat) {f : Fragment Operand}
    (hs : f.Sound d.next [f.result]) : d.Grows ((d.loopHead id).loopBody f) :=
  (((grows_loopHead d id).pushFragment hs).push _).moveTo (by simp [loopHead, leave])

mutual

theorem stmt_grows {loops : List OpenLoop} {d d' : Draft} : (s : Bound.Stmt) → d.Live →
    stmt ctx loops d s = .ok d' → d'.Live ∧ d.Grows d'
  | .store slot e, hd, h => by
    obtain ⟨f, hf, cell, -, rfl⟩ := (stmt_store hd).mp h
    have hs := expr_sound e hf
    exact ⟨(hd.pushFragment hs).push (by simp [Code.Instr.isTerminator]),
      ((Grows.refl d).pushFragment hs).push _⟩
  | .ifElse c t e, hd, h => by
    have ht : Grow ctx loops t := fun _ _ => stmts_grows t
    have he : Grow ctx loops e := fun _ _ => stmts_grows e
    obtain ⟨f, hf, d₁, h₁, d₂, h₂, rfl⟩ := (stmt_ifElse hd ht he).mp h
    have p := choice_ifElse hd ht he h₁ h₂
    refine ⟨(p.exit.push _).fresh.live, ?_⟩
    have hg : d.Grows d₁ := (grows_thenPart (condition_sound hf)).trans p.thenGrows
    exact ((hg.leave _ (by omega)).trans p.elseGrows).leave _ (by omega)
  | .loop id c body, hd, h => by
    have hb : Grow ctx (⟨id, d.blocks.length, d.blocks.length + 2⟩ :: loops) body :=
      fun _ _ => stmts_grows body
    obtain ⟨f, hf, d₁, h₁, rfl⟩ := (stmt_loop hd hb).mp h
    have p := turn_loop hd hb h₁
    refine ⟨(p.exit.push _).fresh.live, ?_⟩
    exact ((grows_loopBody d id (condition_sound hf)).trans p.grows).leave _ (by omega)
  | .jump j id, hd, h => by
    obtain ⟨l, -, rfl⟩ := (stmt_jump hd).mp h
    exact ⟨(fresh_dead hd.lt _).live, grows_dead d _⟩
  | .expr e, hd, h => by
    obtain ⟨f, hf, rfl⟩ := (stmt_expr hd).mp h
    have hs := expr_sound e hf
    exact ⟨hd.pushFragment hs, (Grows.refl d).pushFragment hs⟩

theorem stmts_grows {loops : List OpenLoop} {d d' : Draft} : (ss : List Bound.Stmt) → d.Live →
    stmts ctx loops d ss = .ok d' → d'.Live ∧ d.Grows d'
  | [], hd, h => by
    simp only [stmts, Except.ok.injEq] at h
    subst h
    exact ⟨hd, .refl d⟩
  | s :: ss, hd, h => by
    obtain ⟨d₁, h₁, h₂⟩ := stmts_cons.mp h
    obtain ⟨hd₁, hg₁⟩ := stmt_grows s hd h₁
    obtain ⟨hd₂, hg₂⟩ := stmts_grows ss hd₁ h₂
    exact ⟨hd₂, hg₁.trans hg₂⟩

end

theorem grow (ctx : Context) (loops : List OpenLoop) (ss : List Bound.Stmt) : Grow ctx loops ss :=
  fun _ _ => stmts_grows ss

end Looplet.Lowering
