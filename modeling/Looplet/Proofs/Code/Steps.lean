import Looplet.Code.Machine
import Looplet.Proofs.Outcome

/-!
# Runs of the machine, step by step

`Steps m n s ws t`: in `n` steps the machine goes from `s` to `t` and prints `ws`. `Realizes` says
that the machine does from some state on what an outcome says: it gets to a state with the result,
or it goes on for as long as the budget asks. Outcomes that follow each other are realized one
after the other (`Realizes.bind`).
-/

namespace Looplet.Code

/-! ## Steps -/

theorem Machine.run_succ {m : Module} {s t : Machine} {w? : Option Int64}
    (h : step m s = .running t w?) (bound : Nat) (printed : Array Int64) :
    run m (bound + 1) s printed = run m bound t (printed ++ w?.toList.toArray) := by
  rw [run, h]
  cases w? with
  | none => simp
  | some w => simp

/-- In `n` steps the machine goes from one state to another and prints words. -/
inductive Steps (m : Module) : Nat → Machine → List Int64 → Machine → Prop where
  | refl (s : Machine) : Steps m 0 s [] s
  | cons {n : Nat} {s t u : Machine} {w? : Option Int64} {ws : List Int64}
    (h : Machine.step m s = .running t w?) (rest : Steps m n t ws u) :
    Steps m (n + 1) s (w?.toList ++ ws) u

namespace Steps

variable {m : Module} {s t u : Machine}

theorem trans {n k : Nat} {ws vs : List Int64} (h : Steps m n s ws t) (h' : Steps m k t vs u) :
    Steps m (n + k) s (ws ++ vs) u := by
  induction h with
  | refl s => rw [Nat.zero_add, List.nil_append]; exact h'
  | cons hs _ ih =>
    rw [Nat.succ_add, List.append_assoc]
    exact .cons hs (ih h')

theorem one (h : Machine.step m s = .running t none) : Steps m 1 s [] t :=
  .cons h (.refl t)

/-- A run with enough steps passes through every state that steps lead to. -/
theorem run_eq {n : Nat} {ws : List Int64} (h : Steps m n s ws t) (bound : Nat)
    (printed : Array Int64) :
    Machine.run m (n + bound) s printed = Machine.run m bound t (printed ++ ws.toArray) := by
  induction h generalizing printed with
  | refl s => simp
  | @cons n s t u w? ws hs _ ih =>
    rw [show n + 1 + bound = n + bound + 1 by omega, Machine.run_succ hs, ih,
      Array.append_assoc, ← List.append_toArray]

/-- A run with too few steps stops at its bound, and has printed a part of the words. -/
theorem run_of_le {n : Nat} {ws : List Int64} (h : Steps m n s ws t) {bound : Nat}
    (hb : bound ≤ n) (printed : Array Int64) :
    ∃ vs, vs <+: ws ∧ Machine.run m bound s printed = (.bounded, printed ++ vs.toArray) := by
  induction h generalizing bound printed with
  | refl s =>
    obtain rfl : bound = 0 := Nat.le_zero.mp hb
    exact ⟨[], List.prefix_refl _, by simp [Machine.run]⟩
  | @cons n s t u w? ws hs _ ih =>
    cases bound with
    | zero => exact ⟨[], List.nil_prefix, by simp [Machine.run]⟩
    | succ bound =>
      obtain ⟨vs, hvs, hrun⟩ := ih (Nat.le_of_succ_le_succ hb) (printed ++ w?.toList.toArray)
      refine ⟨w?.toList ++ vs, (List.prefix_append_right_inj _).mpr hvs, ?_⟩
      rw [Machine.run_succ hs, hrun, Array.append_assoc, ← List.append_toArray]

end Steps

/-! ## Realized outcomes -/

/-- From the state `s` the machine comes to what an outcome says. With a result it gets to a state
that `post` relates to the result. Without one it goes on for at least `k` steps. -/
def Realizes {α : Type} (m : Module) (k : Nat) (s : Machine) (o : Outcome α)
    (post : α → Machine → Prop) : Prop :=
  match o with
  | .value ws a => ∃ n t, Steps m n s ws t ∧ post a t
  | .unfinished ws => ∃ n t, k ≤ n ∧ Steps m n s ws t
  | .undefined => False

namespace Realizes

variable {α β : Type} {m : Module} {k : Nat} {s t : Machine} {o : Outcome α}
variable {post : α → Machine → Prop}

theorem pure {a : α} (h : post a s) : Realizes m k s (Pure.pure a) post :=
  ⟨0, s, .refl s, h⟩

/-- Nothing has to be done on an empty budget. -/
theorem unfinished : Realizes m 0 s (.unfinished []) post :=
  ⟨0, s, Nat.le_refl 0, .refl s⟩

theorem steps {n : Nat} {ws : List Int64} (hs : Steps m n s ws t) (h : Realizes m k t o post) :
    Realizes m (n + k) s (o.after ws) post := by
  cases o with
  | value vs a =>
    obtain ⟨j, u, hj, hu⟩ := h
    exact ⟨n + j, u, hs.trans hj, hu⟩
  | unfinished vs =>
    obtain ⟨j, u, hk, hj⟩ := h
    exact ⟨n + j, u, by omega, hs.trans hj⟩
  | undefined => exact h

theorem mono {j : Nat} (h : Realizes m k s o post) (hj : j ≤ k) : Realizes m j s o post := by
  cases o with
  | value ws a => exact h
  | unfinished ws =>
    obtain ⟨n, t, hn, hs⟩ := h
    exact ⟨n, t, Nat.le_trans hj hn, hs⟩
  | undefined => exact h

/-- A step that prints nothing pays for one unit of the budget. -/
theorem step (hs : Machine.step m s = .running t none) (h : Realizes m k t o post) :
    Realizes m (k + 1) s o post := by
  have := h.steps (.one hs)
  rw [Outcome.after_nil, Nat.add_comm] at this
  exact this

/-- A step that prints nothing. -/
theorem skip (hs : Machine.step m s = .running t none) (h : Realizes m k t o post) :
    Realizes m k s o post :=
  (h.step hs).mono (Nat.le_succ k)

/-- The machine may go on after the result, if it prints nothing more. -/
theorem andThen {post' : α → Machine → Prop} (h : Realizes m k s o post)
    (hp : ∀ a t, post a t → ∃ n u, Steps m n t [] u ∧ post' a u) : Realizes m k s o post' := by
  cases o with
  | value ws a =>
    obtain ⟨n, t, hs, ht⟩ := h
    obtain ⟨j, u, hj, hu⟩ := hp a t ht
    refine ⟨n + j, u, ?_, hu⟩
    rw [← List.append_nil ws]
    exact hs.trans hj
  | unfinished ws => exact h
  | undefined => exact h

theorem imp {post' : α → Machine → Prop} (h : Realizes m k s o post)
    (hp : ∀ a t, post a t → post' a t) : Realizes m k s o post' :=
  h.andThen fun a t ht => ⟨0, t, .refl t, hp a t ht⟩

theorem bind {f : α → Outcome β} {post' : β → Machine → Prop} (h : Realizes m k s o post)
    (hf : ∀ a t, post a t → Realizes m k t (f a) post') : Realizes m k s (o >>= f) post' := by
  cases o with
  | value ws a =>
    obtain ⟨n, t, hs, ht⟩ := h
    exact ((hf a t ht).steps hs).mono (Nat.le_add_left k n)
  | unfinished ws => exact h
  | undefined => exact h.elim

end Realizes

end Looplet.Code
