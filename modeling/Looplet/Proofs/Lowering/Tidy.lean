import Looplet.Proofs.Lowering.Shape

/-!
# Tidy drafts

In a tidy draft every block has its terminator, but for the one that grows and those that are still
to be entered; every block finds its operands in itself or among the values known from outside;
jumps go to blocks that there are, and no number is used twice. Statements keep a draft tidy
(`stmts_tidy`).
-/

namespace Looplet.Lowering

open Code (Operand Instr Block Checks numbers)
open Draft

variable {m : Code.Module} {arity : Nat} {known : Nat → Prop} {ctx : Context}
variable {d d' : Draft} {pending : List Nat} {is : List Instr}

/-- The blocks of a draft are in order. The `pending` blocks are still to be entered. -/
structure Draft.Tidy (m : Code.Module) (arity : Nat) (known : Nat → Prop) (pending : List Nat)
    (d : Draft) : Prop where
  ended : ∀ (i : Nat) (b : Block), d.blocks[i]? = some b → b.Ended ∨ i = d.current ∨ i ∈ pending
  checks : ∀ b ∈ d.blocks, Checks m arity known b.instrs
  targets : ∀ b ∈ d.blocks, ∀ t ∈ b.targets, 0 < t ∧ t < d.blocks.length
  nodup : (d.blocks.flatMap fun b => numbers b.instrs).Nodup
  below : ∀ b ∈ d.blocks, ∀ n ∈ numbers b.instrs, n < d.next

/-! ## Instructions -/

theorem mem_push {b : Block} (h : b ∈ (d.push is).blocks) :
    b ∈ d.blocks ∨
      ∃ b₀, d.blocks[d.current]? = some b₀ ∧ b = ⟨b₀.name, b₀.instrs ++ is⟩ := by
  obtain ⟨i, hi⟩ := List.mem_iff_getElem?.mp h
  by_cases hc : i = d.current
  · subst hc
    have hlt : d.current < d.blocks.length := by
      have := (List.getElem?_eq_some_iff.mp hi).1
      rwa [length_push] at this
    have hb := List.getElem?_eq_getElem hlt
    rw [getElem?_push_self hb] at hi
    exact .inr ⟨_, hb, (Option.some.inj hi).symm⟩
  · rw [getElem?_push_of_ne hc] at hi
    exact .inl (List.mem_of_getElem? hi)

/-- The numbers of new instructions come to those that there are. -/
theorem numbers_push_perm (hlt : d.current < d.blocks.length) (is : List Instr) :
    ((d.push is).blocks.flatMap fun b => numbers b.instrs).Perm
      ((d.blocks.flatMap fun b => numbers b.instrs) ++ numbers is) := by
  obtain ⟨blocks, current, next, ifs⟩ := d
  simp only [push] at hlt ⊢
  induction blocks generalizing current with
  | nil => exact absurd hlt (Nat.not_lt_zero _)
  | cons b bs ih =>
    cases current with
    | zero =>
      simp only [List.modify_zero_cons, List.flatMap_cons, Code.numbers_append, List.append_assoc]
      exact List.perm_append_comm.append_left _
    | succ current =>
      simp only [List.modify_succ_cons, List.flatMap_cons, List.append_assoc]
      exact (ih current (Nat.lt_of_succ_lt_succ hlt)).append_left _

namespace Draft.Tidy

/-- Instructions that find their operands may be added. -/
theorem push (h : d.Tidy m arity known pending) (hlt : d.current < d.blocks.length)
    (is : List Instr) (hc : ∀ b, d.blocks[d.current]? = some b →
      Checks m arity (fun n => known n ∨ n ∈ numbers b.instrs) is)
    (ht : ∀ i ∈ is, ∀ t ∈ i.targets, 0 < t ∧ t < d.blocks.length) (k : Nat)
    (hn : numbers is = List.range' d.next k) :
    Draft.Tidy m arity known pending { d.push is with next := d.next + k } where
  ended i b hb := by
    by_cases hi : i = d.current
    · exact .inr (.inl hi)
    · rw [getElem?_push_of_ne hi] at hb
      exact h.ended i b hb
  checks b hb := by
    obtain hb | ⟨b₀, hb₀, rfl⟩ := mem_push hb
    · exact h.checks b hb
    · exact Checks.append.mpr ⟨h.checks b₀ (List.mem_of_getElem? hb₀), hc b₀ hb₀⟩
  targets b hb t htb := by
    rw [length_push]
    obtain hb | ⟨b₀, hb₀, rfl⟩ := mem_push hb
    · exact h.targets b hb t htb
    · rw [Block.targets, List.flatMap_append, List.mem_append] at htb
      rcases htb with htb | htb
      · exact h.targets b₀ (List.mem_of_getElem? hb₀) t htb
      · obtain ⟨i, hi, hti⟩ := List.mem_flatMap.mp htb
        exact ht i hi t hti
  nodup := by
    refine (numbers_push_perm hlt is).nodup_iff.mpr (List.nodup_append.mpr ⟨h.nodup, ?_, ?_⟩)
    · rw [hn]
      exact List.nodup_range'
    · rintro a ha b hb rfl
      obtain ⟨b₀, hb₀, ha⟩ := List.mem_flatMap.mp ha
      rw [hn, List.mem_range'_1] at hb
      exact absurd (h.below b₀ hb₀ a ha) (by omega)
  below b hb n hnb := by
    show n < d.next + k
    obtain hb | ⟨b₀, hb₀, rfl⟩ := mem_push hb
    · exact Nat.lt_add_right k (h.below b hb n hnb)
    · rw [Code.numbers_append, List.mem_append] at hnb
      rcases hnb with hnb | hnb
      · exact Nat.lt_add_right k (h.below b₀ (List.mem_of_getElem? hb₀) n hnb)
      · rw [hn, List.mem_range'_1] at hnb
        exact hnb.2

/-- An instruction that gives no value may be added if its operands are there. -/
theorem push_one (h : d.Tidy m arity known pending) (hlt : d.current < d.blocks.length) {i : Instr}
    (hi : ∀ b, d.blocks[d.current]? = some b →
      i.Fits m arity fun n => known n ∨ n ∈ numbers b.instrs)
    (ht : ∀ t ∈ i.targets, 0 < t ∧ t < d.blocks.length) (hn : i.number? = none) :
    (d.push [i]).Tidy m arity known pending := by
  refine h.push hlt [i] (fun b hb => ⟨hi b hb, trivial⟩) ?_ 0 ?_
  · simpa using ht
  · simp [numbers, hn]

theorem pushFragment {α : Type} {f : Fragment α} {os os' : List Operand}
    (h : d.Tidy m arity known pending) (hlt : d.current < d.blocks.length)
    (hs : f.Sound d.next os) (hf : f.Fits m arity known d.next os') :
    (d.pushFragment f).Tidy m arity known pending := by
  obtain ⟨k, hk, hn⟩ := hf.numbers
  have := h.push hlt f.instrs (fun b _ => hf.checks.mono fun _ => Or.inl)
    (fun i hi t ht => by
      rw [Code.targets_of_not_terminator (hs.straight i hi)] at ht
      cases ht) k hn
  rw [← hk] at this
  exact this

/-- The blocks that are added are pending. -/
theorem append (h : d.Tidy m arity known pending) (names : List String) :
    (d.append names).Tidy m arity known
      (List.range' d.blocks.length names.length ++ pending) where
  ended i b hb := by
    by_cases hi : i < d.blocks.length
    · rw [getElem?_append_of_lt hi] at hb
      exact (h.ended i b hb).imp_right (Or.imp_right (List.mem_append_right _))
    · have hlt := (List.getElem?_eq_some_iff.mp hb).1
      rw [length_append] at hlt
      exact .inr (.inr (List.mem_append_left _ (List.mem_range'_1.mpr ⟨by omega, hlt⟩)))
  checks b hb := by
    rcases List.mem_append.mp hb with hb | hb
    · exact h.checks b hb
    · obtain ⟨name, -, rfl⟩ := List.mem_map.mp hb
      trivial
  targets b hb t ht := by
    rw [length_append]
    rcases List.mem_append.mp hb with hb | hb
    · have := h.targets b hb t ht
      omega
    · obtain ⟨name, -, rfl⟩ := List.mem_map.mp hb
      cases ht
  nodup := by
    have hnew :
        (names.map fun n => (⟨n, []⟩ : Block)).flatMap (fun b => numbers b.instrs) = [] := by
      rw [List.flatMap_eq_nil_iff]
      intro b hb
      obtain ⟨name, -, rfl⟩ := List.mem_map.mp hb
      rfl
    rw [Draft.append, List.flatMap_append, hnew, List.append_nil]
    exact h.nodup
  below b hb n hn := by
    rcases List.mem_append.mp hb with hb | hb
    · exact h.below b hb n hn
    · obtain ⟨name, -, rfl⟩ := List.mem_map.mp hb
      cases hn

/-- A block that has its terminator may be left for a pending one. -/
theorem moveTo (h : d.Tidy m arity known pending)
    (he : ∀ b, d.blocks[d.current]? = some b → b.Ended) {t : Nat} {pending' : List Nat}
    (hp : ∀ i ∈ pending, i = t ∨ i ∈ pending') : (d.moveTo t).Tidy m arity known pending' where
  ended i b hb := by
    rcases h.ended i b hb with hi | hi | hi
    · exact .inl hi
    · subst hi
      exact .inl (he b hb)
    · exact .inr (hp i hi)
  checks := h.checks
  targets := h.targets
  nodup := h.nodup
  below := h.below

end Draft.Tidy

/-- A live block that gets a terminator has one. -/
theorem Draft.Live.ended_push (h : d.Live) {i : Instr} (hi : i.isTerminator = true) {b : Block}
    (hb : (d.push [i]).blocks[d.current]? = some b) : b.Ended := by
  obtain ⟨b₀, hb₀, hlive⟩ := h
  rw [getElem?_push_self hb₀] at hb
  cases hb
  exact ⟨b₀.instrs, i, rfl, hi, hlive⟩

/-- A live block may be left with a jump. -/
theorem Draft.Tidy.leave (h : d.Tidy m arity known pending) (hd : d.Live) {target next : Nat}
    (ht : 0 < target ∧ target < d.blocks.length) {pending' : List Nat}
    (hp : ∀ i ∈ pending, i = next ∨ i ∈ pending') :
    (d.leave target next).Tidy m arity known pending' := by
  have hpush : (d.push [.jump target]).Tidy m arity known pending :=
    h.push_one hd.lt (fun b _ => ⟨nofun, nofun⟩) (by simpa [Instr.targets] using ht) rfl
  exact hpush.moveTo (fun b hb => hd.ended_push rfl hb) hp

/-! ## Parts of statements -/

theorem Draft.Live.append (h : d.Live) (names : List String) : (d.append names).Live := by
  obtain ⟨b, hb, hlive⟩ := h
  refine ⟨b, ?_, hlive⟩
  rw [append_current, getElem?_append_of_lt (List.getElem?_eq_some_iff.mp hb).1]
  exact hb

/-- What a fragment computes is there in the block that it is added to. -/
theorem fits_result {α : Type} {f : Fragment α} {os : List Operand}
    (hlt : d.current < d.blocks.length) (hf : f.Fits m arity known d.next os) {o : Operand}
    (ho : o ∈ os) {b : Block} (hb : (d.pushFragment f).blocks[d.current]? = some b) :
    o.Fits m arity fun n => known n ∨ n ∈ numbers b.instrs := by
  have hb₀ := List.getElem?_eq_getElem hlt
  have hpush := getElem?_push_self (d := { d with next := f.next }) hb₀ f.instrs
  rw [show (d.pushFragment f).blocks[d.current]? = _ from hpush] at hb
  cases hb
  refine (hf.results o ho).mono fun n => Or.imp_right fun hn => ?_
  rw [Code.numbers_append]
  exact List.mem_append_right _ hn

theorem fits_branch {o : Operand} {t e : Nat} (ho : o.Fits m arity known) :
    (Instr.branch o t e).Fits m arity known :=
  ⟨by simpa [Instr.operands] using ho, nofun⟩

section Parts

variable {f : Fragment Operand}

/-- Before the first part of a conditional its other part and its end become pending. -/
theorem tidy_thenPart (hd : d.Live) (h : d.Tidy m arity known pending)
    (hs : f.Sound d.next [f.result]) (hf : f.Fits m arity known d.next [f.result]) :
    (d.thenPart f).Tidy m arity known
      ((d.blocks.length + 1) :: (d.blocks.length + 2) :: pending) := by
  let d₀ : Draft := { d with ifs := d.ifs + 1 }
  have hlt : (d₀.pushFragment f).current < (d₀.pushFragment f).blocks.length := by
    simpa using hd.lt
  have hlive : ((d₀.pushFragment f).append (ifNames d.ifs)).Live :=
    (Live.pushFragment (d := d₀) hd hs).append _
  have h₀ : d₀.Tidy m arity known pending := ⟨h.ended, h.checks, h.targets, h.nodup, h.below⟩
  have h₁ := (h₀.pushFragment hd.lt hs hf).append (ifNames d.ifs)
  have hlen : ((d₀.pushFragment f).append (ifNames d.ifs)).blocks.length = d.blocks.length + 3 := by
    rw [length_append, length_pushFragment]
    rfl
  have h₂ := h₁.push_one (i := .branch f.result d.blocks.length (d.blocks.length + 1)) hlive.lt
    (fun b hb => by
      rw [append_current, getElem?_append_of_lt hlt] at hb
      exact fits_branch (fits_result (d := d₀) hd.lt hf (List.mem_singleton_self _) hb))
    (by
      have := hd.lt
      rw [hlen]
      simp only [Instr.targets, List.mem_cons, List.not_mem_nil, or_false]
      omega) rfl
  refine h₂.moveTo (fun b hb => hlive.ended_push rfl hb) fun i hi => ?_
  rw [length_pushFragment] at hi
  simp only [ifNames, List.length_map, List.length_cons, List.length_nil, List.mem_append,
    List.mem_range'_1, List.mem_cons] at hi ⊢
  rcases hi with hi | hi
  · have : d₀.blocks.length = d.blocks.length := rfl
    omega
  · exact .inr (.inr (.inr hi))

/-- Before a loop its body and its end become pending. -/
theorem tidy_loopHead (hd : d.Live) (h : d.Tidy m arity known pending) (id : Nat) :
    (d.loopHead id).Tidy m arity known
      ((d.blocks.length + 1) :: (d.blocks.length + 2) :: pending) := by
  have hlt := hd.lt
  refine (h.append (loopNames id)).leave (hd.append _) ?_ fun i hi => ?_
  · rw [length_append]
    exact ⟨by omega, by simp [loopNames]⟩
  · simp only [loopNames, List.length_map, List.length_cons, List.length_nil, List.mem_append,
      List.mem_range'_1, List.mem_cons] at hi ⊢
    rcases hi with hi | hi
    · omega
    · exact .inr (.inr (.inr hi))

/-- The body of a loop is entered after its condition. -/
theorem tidy_loopBody (hd : d.Live) (hs : f.Sound d.next [f.result])
    (hf : f.Fits m arity known d.next [f.result]) (hlen : d.current + 2 < d.blocks.length)
    (h : d.Tidy m arity known ((d.current + 1) :: pending)) :
    (d.loopBody f).Tidy m arity known pending := by
  have h₁ := h.pushFragment hd.lt hs hf
  have h₂ := h₁.push_one (i := .branch f.result (d.current + 1) (d.current + 2))
    (by simpa using hd.lt)
    (fun b hb => fits_branch (fits_result hd.lt hf (List.mem_singleton_self _) hb))
    (by
      rw [length_pushFragment]
      simp only [Instr.targets, List.mem_cons, List.not_mem_nil, or_false]
      omega) rfl
  refine h₂.moveTo (fun b hb => (hd.pushFragment hs).ended_push rfl hb) fun i hi => ?_
  exact List.mem_cons.mp hi

/-- After a jump the unreachable block is entered. -/
theorem tidy_dead (hd : d.Live) (h : d.Tidy m arity known pending) {target : Nat}
    (ht : 0 < target ∧ target < d.blocks.length) :
    (d.dead target).Tidy m arity known pending := by
  have h₁ : (d.push [.jump target]).Tidy m arity known pending :=
    h.push_one hd.lt (fun b _ => ⟨nofun, nofun⟩) (by simpa [Instr.targets] using ht) rfl
  refine (h₁.append ["dead"]).moveTo (fun b hb => ?_) fun i hi => ?_
  · rw [append_current, getElem?_append_of_lt (by simpa using hd.lt)] at hb
    exact hd.ended_push rfl hb
  · simp only [length_push, List.length_cons, List.length_nil, List.mem_append,
      List.mem_range'_1] at hi
    rcases hi with hi | hi
    · exact .inl (by omega)
    · exact .inr hi

end Parts

/-! ## Statements -/

/-- The blocks of the loops around a statement may be jumped to. -/
def Entered (loops : List OpenLoop) (d : Draft) : Prop :=
  ∀ l ∈ loops, ∀ j, 0 < l.target j ∧ l.target j < d.blocks.length

theorem Entered.grows {loops : List OpenLoop} (h : Entered loops d)
    (hg : d.blocks.length ≤ d'.blocks.length) : Entered loops d' :=
  fun l hl j => ⟨(h l hl j).1, Nat.lt_of_lt_of_le (h l hl j).2 hg⟩

mutual

theorem stmt_tidy {loops : List OpenLoop} {d d' : Draft} {pending : List Nat} :
    (s : Bound.Stmt) → stmt ctx loops d s = .ok d' → d.Live → Entered loops d →
    (∀ c ∈ s.calls, ctx.Calls m c) → d.Tidy m arity ctx.IsCell pending →
    d'.Tidy m arity ctx.IsCell pending
  | .store slot e, h, hd, hl, hcalls, ht => by
    obtain ⟨f, hf, cell, hc, rfl⟩ := (stmt_store hd).mp h
    have hfits : f.Fits m arity ctx.IsCell d.next [f.result] := expr_fits e hf hcalls
    refine (ht.pushFragment hd.lt (expr_sound e hf) hfits).push_one (by simpa using hd.lt)
      (fun b hb => ⟨?_, nofun⟩) nofun rfl
    intro o ho
    rcases List.mem_cons.mp ho with rfl | ho
    · exact fits_result hd.lt hfits (List.mem_singleton_self _) hb
    · obtain rfl := List.mem_singleton.mp ho
      exact (fits_cell hc).mono fun _ => Or.inl
  | .ifElse c t e, h, hd, hl, hcalls, ht => by
    obtain ⟨f, hf, d₁, h₁, d₂, h₂, rfl⟩ :=
      (stmt_ifElse hd (grow ctx loops t) (grow ctx loops e)).mp h
    simp only [Bound.Stmt.calls, List.forall_mem_append] at hcalls
    obtain ⟨hcc, hct, hce⟩ := hcalls
    have hs := condition_sound hf
    have p := choice_ifElse hd (grow ctx loops t) (grow ctx loops e) h₁ h₂
    have hg₀ := grows_thenPart hs
    have hlen : d.blocks.length + 2 < (d.thenPart f).blocks.length :=
      (fresh_thenPart hd.lt f).2.2.lt
    have hlen₁ : (d.thenPart f).blocks.length ≤ d₁.blocks.length := p.thenGrows.length_le
    have ht₁ := stmts_tidy t h₁ p.thenFresh.live (hl.grows hg₀.length_le) hct
      (tidy_thenPart hd ht hs (condition_fits hf hcc))
    have htelse : (d₁.leave (d.blocks.length + 2) (d.blocks.length + 1)).Tidy m arity ctx.IsCell
        ((d.blocks.length + 2) :: pending) :=
      ht₁.leave p.thenLive (by omega) fun i hi => List.mem_cons.mp hi
    have ht₂ := stmts_tidy e h₂ p.elseFresh.live
      (hl.grows (by simpa [leave] using Nat.le_trans hg₀.length_le hlen₁)) hce htelse
    exact ht₂.leave p.elseLive ⟨Nat.succ_pos _, p.exit.lt⟩ fun i hi => List.mem_cons.mp hi
  | .loop id c body, h, hd, hl, hcalls, ht => by
    obtain ⟨f, hf, d₁, h₁, rfl⟩ := (stmt_loop hd (grow ctx _ body)).mp h
    rw [Bound.Stmt.calls, List.forall_mem_append] at hcalls
    have hs := condition_sound hf
    have p := turn_loop hd (grow ctx _ body) h₁
    have hlen : d.blocks.length + 2 < (d.loopHead id).blocks.length :=
      (fresh_loopHead hd.lt id).2.2.lt
    have hentered : Entered (⟨id, d.blocks.length, d.blocks.length + 2⟩ :: loops)
        ((d.loopHead id).loopBody f) := by
      have hlt := hd.lt
      have hexit := p.bodyExit.lt
      intro l hmem j
      rcases List.mem_cons.mp hmem with rfl | hmem
      · cases j <;> simp only [OpenLoop.target] <;> omega
      · have htarget := hl l hmem j
        omega
    have htbody : ((d.loopHead id).loopBody f).Tidy m arity ctx.IsCell
        ((d.blocks.length + 2) :: pending) :=
      tidy_loopBody p.headFresh.live hs (condition_fits hf hcalls.1) hlen (tidy_loopHead hd ht id)
    have ht₁ := stmts_tidy body h₁ p.bodyFresh.live hentered hcalls.2 htbody
    have hlt := hd.lt
    have hexit := p.exit.lt
    exact ht₁.leave p.live (by omega) fun i hi => List.mem_cons.mp hi
  | .jump j id, h, hd, hl, hcalls, ht => by
    obtain ⟨l, hfind, rfl⟩ := (stmt_jump hd).mp h
    exact tidy_dead hd ht (hl l (List.mem_of_find?_eq_some hfind) j)
  | .expr e, h, hd, hl, hcalls, ht => by
    obtain ⟨f, hf, rfl⟩ := (stmt_expr hd).mp h
    exact ht.pushFragment hd.lt (expr_sound e hf) (expr_fits e hf hcalls)

theorem stmts_tidy {loops : List OpenLoop} {d d' : Draft} {pending : List Nat} :
    (ss : List Bound.Stmt) → stmts ctx loops d ss = .ok d' → d.Live → Entered loops d →
    (∀ c ∈ Bound.Stmt.callsOfAll ss, ctx.Calls m c) → d.Tidy m arity ctx.IsCell pending →
    d'.Tidy m arity ctx.IsCell pending
  | [], h, hd, hl, hcalls, ht => by
    cases h
    exact ht
  | s :: ss, h, hd, hl, hcalls, ht => by
    obtain ⟨d₁, h₁, h₂⟩ := stmts_cons.mp h
    rw [Bound.Stmt.callsOfAll, List.forall_mem_append] at hcalls
    obtain ⟨hl₁, hg₁⟩ := stmt_grows s hd h₁
    exact stmts_tidy ss h₂ hl₁ (hl.grows hg₁.length_le) hcalls.2
      (stmt_tidy s h₁ hd hl hcalls.1 ht)

end

end Looplet.Lowering
