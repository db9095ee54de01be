import Looplet.Proofs.Lowering.Fragment

/-!
# Drafts that grow

While a body is lowered the current block is there and has no terminator yet (`Draft.Live`), so
nothing that the lowering asks of it can fail. What was written before stays: a draft only gets
instructions at the end of its current block, and new blocks (`Draft.Grows`). A block that is
reserved and not entered stays empty (`Draft.Spare`).

    stmts ctx loops d ss = .ok d' → d.Live → d'.Live ∧ d.Grows d'        (stmts_grows)
-/

namespace Looplet.Lowering

open Code (Operand Op Instr Block)

/-- Every block of the first list is the start of the block at its place in the second. -/
def Extends (bs cs : List Block) : Prop :=
  ∀ (i : Nat) (b : Block), bs[i]? = some b → ∃ more, cs[i]? = some ⟨b.name, b.instrs ++ more⟩

theorem Extends.refl (bs : List Block) : Extends bs bs :=
  fun _ b h => ⟨[], by rw [List.append_nil]; exact h⟩

theorem Extends.trans {bs cs ds : List Block} (h : Extends bs cs) (h' : Extends cs ds) :
    Extends bs ds := by
  intro i b hb
  obtain ⟨more, hc⟩ := h i b hb
  obtain ⟨more', hd⟩ := h' i _ hc
  exact ⟨more ++ more', by rw [hd, List.append_assoc]⟩

theorem Extends.length_le {bs cs : List Block} (h : Extends bs cs) : bs.length ≤ cs.length := by
  rcases Nat.eq_zero_or_pos bs.length with h0 | hpos
  · omega
  · obtain ⟨more, hc⟩ := h (bs.length - 1) _ (List.getElem?_eq_getElem (by omega))
    have := (List.getElem?_eq_some_iff.mp hc).1
    omega

namespace Draft

variable {d d' e : Draft} {is : List Instr} {names : List String}

/-! ## The current block -/

/-- The current block is there, and nothing in it ends it. -/
def Live (d : Draft) : Prop :=
  ∃ b, d.blocks[d.current]? = some b ∧ ∀ i ∈ b.instrs, i.isTerminator = false

/-- The current block is there and empty. -/
def Fresh (d : Draft) : Prop :=
  ∃ name, d.blocks[d.current]? = some ⟨name, []⟩

/-- A block other than the current one that is there and empty. -/
def Spare (d : Draft) (i : Nat) : Prop :=
  (∃ name, d.blocks[i]? = some ⟨name, []⟩) ∧ i ≠ d.current

theorem Live.lt (h : d.Live) : d.current < d.blocks.length := by
  obtain ⟨b, hb, -⟩ := h
  exact (List.getElem?_eq_some_iff.mp hb).1

@[simp] theorem push_current (d : Draft) (is : List Instr) : (d.push is).current = d.current := rfl

@[simp] theorem push_next (d : Draft) (is : List Instr) : (d.push is).next = d.next := rfl

@[simp] theorem length_push (d : Draft) (is : List Instr) :
    (d.push is).blocks.length = d.blocks.length :=
  List.length_modify ..

theorem getElem?_push_self {b : Block} (h : d.blocks[d.current]? = some b) (is : List Instr) :
    (d.push is).blocks[d.current]? = some ⟨b.name, b.instrs ++ is⟩ := by
  simp [push, h]

theorem getElem?_push_of_ne {i : Nat} (h : i ≠ d.current) (is : List Instr) :
    (d.push is).blocks[i]? = d.blocks[i]? := by
  simp [push, Ne.symm h]

@[simp] theorem append_current (d : Draft) (names : List String) :
    (d.append names).current = d.current := rfl

@[simp] theorem append_next (d : Draft) (names : List String) :
    (d.append names).next = d.next := rfl

@[simp] theorem length_append (d : Draft) (names : List String) :
    (d.append names).blocks.length = d.blocks.length + names.length := by
  simp [append]

theorem getElem?_append_of_lt {i : Nat} (h : i < d.blocks.length) (names : List String) :
    (d.append names).blocks[i]? = d.blocks[i]? :=
  List.getElem?_append_left h

@[simp] theorem moveTo_current (d : Draft) (b : Nat) : (d.moveTo b).current = b := rfl

@[simp] theorem moveTo_next (d : Draft) (b : Nat) : (d.moveTo b).next = d.next := rfl

@[simp] theorem moveTo_blocks (d : Draft) (b : Nat) : (d.moveTo b).blocks = d.blocks := rfl

theorem extends_push (d : Draft) (is : List Instr) : Extends d.blocks (d.push is).blocks := by
  intro i b hb
  by_cases hi : i = d.current
  · subst hi
    exact ⟨is, getElem?_push_self hb is⟩
  · exact ⟨[], by rw [getElem?_push_of_ne hi, List.append_nil]; exact hb⟩

theorem extends_append (d : Draft) (names : List String) :
    Extends d.blocks (d.append names).blocks := by
  intro i b hb
  refine ⟨[], ?_⟩
  rw [getElem?_append_of_lt (List.getElem?_eq_some_iff.mp hb).1, List.append_nil]
  exact hb

theorem emit_of_lt (h : d.current < d.blocks.length) (is : List Instr) :
    d.emit is = .ok (d.push is) := by
  simp [emit, isPlaced, h]

theorem reserve_of_lt (h : d.current < d.blocks.length) (names : List String) :
    d.reserve names = .ok (d.append names) := by
  simp [reserve, isPlaced, h]

/-- A live block is left by the instruction that is to end it. -/
theorem Live.close (h : d.Live) (i : Instr) : d.close i = .ok (d.push [i]) := by
  obtain ⟨b, hb, hlast⟩ := h
  have hopen : d.isOpen = .ok true := by
    simp only [isOpen, hb]
    cases hl : b.instrs.getLast? with
    | none => rfl
    | some last => simp [hlast last (List.mem_of_getLast? hl)]
  rw [Draft.close, hopen, ok_bind, if_pos rfl]
  exact emit_of_lt (Live.lt ⟨b, hb, hlast⟩) [i]

theorem Live.push (h : d.Live) (hi : ∀ i ∈ is, i.isTerminator = false) : (d.push is).Live := by
  obtain ⟨b, hb, hlast⟩ := h
  refine ⟨_, getElem?_push_self hb is, fun i hmem => ?_⟩
  rcases List.mem_append.mp hmem with hmem | hmem
  · exact hlast i hmem
  · exact hi i hmem

theorem Fresh.live (h : d.Fresh) : d.Live := by
  obtain ⟨name, hn⟩ := h
  exact ⟨_, hn, by simp⟩

theorem Spare.fresh {i : Nat} (h : d.Spare i) : (d.moveTo i).Fresh := h.1

theorem Spare.push {i : Nat} (h : d.Spare i) (is : List Instr) : (d.push is).Spare i := by
  obtain ⟨⟨name, hn⟩, hi⟩ := h
  exact ⟨⟨name, (getElem?_push_of_ne hi is).trans hn⟩, hi⟩

theorem Spare.moveTo {i b : Nat} (h : d.Spare i) (hb : i ≠ b) : (d.moveTo b).Spare i :=
  ⟨h.1, hb⟩

theorem Spare.lt {i : Nat} (h : d.Spare i) : i < d.blocks.length := by
  obtain ⟨⟨name, hn⟩, -⟩ := h
  exact (List.getElem?_eq_some_iff.mp hn).1

/-- The blocks that are added are spare. -/
theorem spare_append (h : d.current < d.blocks.length) (names : List String) {k : Nat}
    (hk : k < names.length) : (d.append names).Spare (d.blocks.length + k) := by
  refine ⟨⟨names[k], ?_⟩, ?_⟩
  · simp only [append]
    rw [List.getElem?_append_right (by omega)]
    simp [hk]
  · simp only [append_current]
    omega

/-! ## Growth -/

/-- The second draft is the first one with instructions added to the current block, and with blocks
added, in one of which it may now grow. -/
structure Grows (d e : Draft) : Prop where
  blocks : Extends d.blocks e.blocks
  kept : ∀ i < d.blocks.length, i ≠ d.current → e.blocks[i]? = d.blocks[i]?
  current : e.current = d.current ∨ d.blocks.length ≤ e.current
  next_le : d.next ≤ e.next

theorem Grows.length_le (h : d.Grows e) : d.blocks.length ≤ e.blocks.length :=
  h.blocks.length_le

theorem Grows.refl (d : Draft) : d.Grows d :=
  ⟨.refl _, fun _ _ _ => rfl, .inl rfl, Nat.le_refl _⟩

theorem Grows.trans (h : d.Grows d') (h' : d'.Grows e) : d.Grows e where
  blocks := h.blocks.trans h'.blocks
  kept i hi hc := by
    have := h.length_le
    rw [h'.kept i (by omega) (by rcases h.current with hd | hd <;> omega), h.kept i hi hc]
  current := by
    have := h.length_le
    rcases h'.current with hd' | hd'
    · rw [hd']
      exact h.current
    · exact .inr (by omega)
  next_le := Nat.le_trans h.next_le h'.next_le

theorem Grows.push (h : d.Grows e) (is : List Instr) : d.Grows (e.push is) where
  blocks := h.blocks.trans (extends_push e is)
  kept i hi hc := by
    rw [getElem?_push_of_ne (by rcases h.current with he | he <;> omega), h.kept i hi hc]
  current := h.current
  next_le := h.next_le

theorem Grows.append (h : d.Grows e) (names : List String) : d.Grows (e.append names) where
  blocks := h.blocks.trans (extends_append e names)
  kept i hi hc := by
    rw [getElem?_append_of_lt (Nat.lt_of_lt_of_le hi h.length_le), h.kept i hi hc]
  current := h.current
  next_le := h.next_le

theorem Grows.moveTo (h : d.Grows e) {b : Nat} (hb : d.blocks.length ≤ b) :
    d.Grows (e.moveTo b) where
  blocks := h.blocks
  kept := h.kept
  current := .inr hb
  next_le := h.next_le

theorem Grows.spare {i : Nat} (h : d.Grows e) (hi : d.Spare i) : e.Spare i := by
  have hlt := hi.lt
  obtain ⟨hn, hc⟩ := hi
  refine ⟨by rw [h.kept i hlt hc]; exact hn, ?_⟩
  rcases h.current with he | he <;> omega

/-! ## Drafts inside a statement -/

/-- Adds the instructions of a fragment. -/
def pushFragment {α : Type} (d : Draft) (f : Fragment α) : Draft :=
  { d with next := f.next }.push f.instrs

/-- Ends the current block with a jump, and goes on in another block. -/
def leave (d : Draft) (target next : Nat) : Draft :=
  (d.push [.jump target]).moveTo next

/-- The first part of a conditional, after the condition `f`. -/
def thenPart (d : Draft) (f : Fragment Operand) : Draft :=
  ((({ d with ifs := d.ifs + 1 }.pushFragment f).append (ifNames d.ifs)).push
    [.branch f.result d.blocks.length (d.blocks.length + 1)]).moveTo d.blocks.length

/-- The condition of a loop. -/
def loopHead (d : Draft) (id : Nat) : Draft :=
  (d.append (loopNames id)).leave d.blocks.length d.blocks.length

/-- The body of a loop, after the condition `f`. -/
def loopBody (d : Draft) (f : Fragment Operand) : Draft :=
  ((d.pushFragment f).push [.branch f.result (d.current + 1) (d.current + 2)]).moveTo
    (d.current + 1)

/-- The unreachable block after a jump. -/
def dead (d : Draft) (target : Nat) : Draft :=
  ((d.push [.jump target]).append ["dead"]).moveTo d.blocks.length

theorem emitFragment_of_lt {α : Type} (h : d.current < d.blocks.length) (f : Fragment α) :
    d.emitFragment f = .ok (d.pushFragment f) :=
  emit_of_lt (d := { d with next := f.next }) h f.instrs

@[simp] theorem pushFragment_current {α : Type} (d : Draft) (f : Fragment α) :
    (d.pushFragment f).current = d.current := rfl

@[simp] theorem pushFragment_next {α : Type} (d : Draft) (f : Fragment α) :
    (d.pushFragment f).next = f.next := rfl

@[simp] theorem length_pushFragment {α : Type} (d : Draft) (f : Fragment α) :
    (d.pushFragment f).blocks.length = d.blocks.length :=
  length_push ..

theorem Live.pushFragment {α : Type} {f : Fragment α} {os : List Operand} (h : d.Live)
    (hf : f.Sound d.next os) : (d.pushFragment f).Live :=
  Live.push (d := { d with next := f.next }) h hf.straight

theorem Spare.pushFragment {α : Type} {i : Nat} (h : d.Spare i) (f : Fragment α) :
    (d.pushFragment f).Spare i :=
  Spare.push (d := { d with next := f.next }) h f.instrs

theorem Grows.pushFragment {α : Type} {f : Fragment α} {os : List Operand} (h : d.Grows e)
    (hf : f.Sound e.next os) : d.Grows (e.pushFragment f) where
  blocks := h.blocks.trans (extends_push { e with next := f.next } f.instrs)
  kept := (h.push f.instrs).kept
  current := h.current
  next_le := Nat.le_trans h.next_le hf.next_le

theorem Grows.leave (h : d.Grows e) (target : Nat) {b : Nat} (hb : d.blocks.length ≤ b) :
    d.Grows (e.leave target b) :=
  (h.push _).moveTo hb

theorem Spare.leave {i b : Nat} (h : d.Spare i) (target : Nat) (hb : i ≠ b) :
    (d.leave target b).Spare i :=
  (h.push _).moveTo hb

/-- The first part of a conditional is fresh, and the other two blocks are spare. -/
theorem fresh_thenPart (h : d.current < d.blocks.length) (f : Fragment Operand) :
    (d.thenPart f).Fresh ∧ (d.thenPart f).Spare (d.blocks.length + 1) ∧
      (d.thenPart f).Spare (d.blocks.length + 2) := by
  have hs : ∀ k < 3, ((({ d with ifs := d.ifs + 1 }.pushFragment f).append (ifNames d.ifs)).push
      [.branch f.result d.blocks.length (d.blocks.length + 1)]).Spare (d.blocks.length + k) := by
    intro k hk
    have := (spare_append (d := { d with ifs := d.ifs + 1 }.pushFragment f) (by simpa using h)
      (ifNames d.ifs) hk).push
        [.branch f.result d.blocks.length (d.blocks.length + 1)]
    rwa [length_pushFragment] at this
  exact ⟨(hs 0 (by omega)).fresh, (hs 1 (by omega)).moveTo (by omega),
    (hs 2 (by omega)).moveTo (by omega)⟩

/-- The condition of a loop is fresh, and the other two blocks are spare. -/
theorem fresh_loopHead (h : d.current < d.blocks.length) (id : Nat) :
    (d.loopHead id).Fresh ∧ (d.loopHead id).Spare (d.blocks.length + 1) ∧
      (d.loopHead id).Spare (d.blocks.length + 2) := by
  have hs : ∀ k < 3, ((d.append (loopNames id)).push [.jump d.blocks.length]).Spare
      (d.blocks.length + k) :=
    fun k hk => (spare_append h (loopNames id) hk).push _
  exact ⟨(hs 0 (by omega)).fresh, (hs 1 (by omega)).moveTo (by omega),
    (hs 2 (by omega)).moveTo (by omega)⟩

theorem grows_thenPart {f : Fragment Operand} {os : List Operand} (hf : f.Sound d.next os) :
    d.Grows (d.thenPart f) := by
  have h : d.Grows { d with ifs := d.ifs + 1 } :=
    ⟨.refl _, fun _ _ _ => rfl, .inl rfl, Nat.le_refl _⟩
  exact (((h.pushFragment hf).append _).push _).moveTo (Nat.le_refl _)

theorem grows_loopHead (d : Draft) (id : Nat) : d.Grows (d.loopHead id) :=
  ((Grows.refl d).append _).leave _ (Nat.le_refl _)

theorem grows_dead (d : Draft) (target : Nat) : d.Grows (d.dead target) :=
  (((Grows.refl d).push _).append _).moveTo (Nat.le_refl _)

theorem fresh_dead (h : d.current < d.blocks.length) (target : Nat) : (d.dead target).Fresh := by
  have := spare_append (d := d.push [.jump target]) (by simpa using h) ["dead"] (k := 0)
    (by decide)
  rw [length_push] at this
  exact this.fresh

end Draft

end Looplet.Lowering
