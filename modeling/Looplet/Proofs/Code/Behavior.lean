import Looplet.Proofs.Code.Steps

/-!
# What is seen of a module

A module that runs from its entry halts with a status or runs forever, and prints lines. It follows
a program if nothing that is seen of the two differs (`Module.Follows`). It is enough that the
machine realizes what the program comes to on every budget, since a budget bounds the number of
steps from below (`follows_of_realizes`). The order of the functions is not seen
(`Module.run_congr`).
-/

namespace Looplet.Code

namespace Module

/-- The module halts with the given status, and has printed the given text. -/
def Halts (m : Module) (status : Int64) (text : String) : Prop :=
  ∃ bound ws, m.run bound = (.halted status, ws) ∧ printedText ws = text

/-- The module takes a step after every other, and never gets stuck. -/
def RunsForever (m : Module) : Prop :=
  ∀ bound, (m.run bound).1 = .bounded

/-- The module prints the given text as its line number `i`, counted from zero. -/
def Prints (m : Module) (i : Nat) (text : String) : Prop :=
  ∃ bound, ((m.run bound).2.toList.map printedLine)[i]? = some text

/-- The module does what the program does: it halts with status zero where the program ends, after
the same text; it runs forever where the program does; it prints the same lines. The program does
one or the other, and the module is never stuck. -/
structure Follows (m : Module) (run : Nat → Outcome Int64) : Prop where
  halts : ∀ text, Ends run text ↔ m.Halts 0 text
  forever : Diverges run → m.RunsForever
  prints : ∀ i text, Looplet.Prints run i text ↔ m.Prints i text
  total : (∃ text, Ends run text) ∨ Diverges run
  neverStuck : ∀ bound, (m.run bound).1 ≠ .stuck

end Module

variable {m : Module} {s : Machine} {run : Nat → Outcome Int64}

/-- After any number of steps the machine has printed a part of what the program prints on that
budget. It has halted only if the program has ended, and then it has printed all of it. -/
theorem run_of_realizes
    (h : ∀ budget, Realizes m budget s (run budget) fun _ t => Machine.step m t = .halted 0)
    (bound : Nat) :
    ∃ ws, ws <+: (run bound).printed ∧
      (Machine.run m bound s #[] = (.bounded, ws.toArray) ∨
        ∃ w, run bound = .value ws w ∧ Machine.run m bound s #[] = (.halted 0, ws.toArray)) := by
  have hb := h bound
  cases hr : run bound with
  | value ws w =>
    rw [hr] at hb
    obtain ⟨n, t, hs, ht⟩ := hb
    rcases Nat.lt_or_ge n bound with hn | hn
    · refine ⟨ws, List.prefix_refl ws, .inr ⟨w, rfl, ?_⟩⟩
      obtain ⟨j, rfl⟩ : ∃ j, bound = n + (j + 1) := ⟨bound - n - 1, by omega⟩
      rw [hs.run_eq, Machine.run, ht]
      simp
    · obtain ⟨vs, hvs, hrun⟩ := hs.run_of_le hn #[]
      exact ⟨vs, hvs, .inl (by simpa using hrun)⟩
  | unfinished ws =>
    rw [hr] at hb
    obtain ⟨n, t, hn, hs⟩ := hb
    obtain ⟨vs, hvs, hrun⟩ := hs.run_of_le hn #[]
    exact ⟨vs, hvs, .inl (by simpa using hrun)⟩
  | undefined =>
    rw [hr] at hb
    exact hb.elim

/-- What a program prints on some budget, the machine has printed after some steps. -/
theorem exists_run_of_realizes {budget : Nat}
    (h : Realizes m budget s (run budget) fun _ t => Machine.step m t = .halted 0) :
    ∃ bound, (Machine.run m bound s #[]).2 = (run budget).printed.toArray := by
  cases hr : run budget with
  | value ws w =>
    rw [hr] at h
    obtain ⟨n, t, hs, -⟩ := h
    have hrun := hs.run_eq 0 #[]
    exact ⟨n, by rw [Nat.add_zero] at hrun; rw [hrun]; simp [Machine.run, Outcome.printed]⟩
  | unfinished ws =>
    rw [hr] at h
    obtain ⟨n, t, -, hs⟩ := h
    have hrun := hs.run_eq 0 #[]
    exact ⟨n, by rw [Nat.add_zero] at hrun; rw [hrun]; simp [Machine.run, Outcome.printed]⟩
  | undefined =>
    rw [hr] at h
    exact h.elim

theorem Module.run_eq (hs : Machine.start? m = some s) (bound : Nat) :
    m.run bound = Machine.run m bound s #[] := by
  simp only [Module.run, hs]

theorem follows_of_realizes (hs : Machine.start? m = some s)
    (h : ∀ budget, Realizes m budget s (run budget) fun _ t => Machine.step m t = .halted 0) :
    m.Follows run where
  halts text := by
    constructor
    · rintro ⟨budget, ws, w, hr, rfl⟩
      have hb := h budget
      rw [hr] at hb
      obtain ⟨n, t, hsteps, ht⟩ := hb
      refine ⟨n + 1, ws.toArray, ?_, rfl⟩
      rw [Module.run_eq hs, hsteps.run_eq, Machine.run, ht]
      simp
    · rintro ⟨bound, out, hrun, rfl⟩
      rw [Module.run_eq hs] at hrun
      obtain ⟨ws, -, hb | ⟨w, hr, hb⟩⟩ := run_of_realizes h bound
      · rw [hb] at hrun
        cases hrun
      · rw [hb] at hrun
        cases hrun
        exact ⟨bound, ws, w, hr, rfl⟩
  forever hd bound := by
    rw [Module.run_eq hs]
    obtain ⟨ws, -, hb | ⟨w, hr, -⟩⟩ := run_of_realizes h bound
    · rw [hb]
    · obtain ⟨vs, hv⟩ := hd bound
      rw [hr] at hv
      cases hv
  prints i text := by
    constructor
    · rintro ⟨budget, hi⟩
      obtain ⟨bound, hb⟩ := exists_run_of_realizes (h budget)
      exact ⟨bound, by rw [Module.run_eq hs, hb]; exact hi⟩
    · rintro ⟨bound, hi⟩
      rw [Module.run_eq hs] at hi
      have hpart : ∃ ws, ws <+: (run bound).printed ∧
          (Machine.run m bound s #[]).2 = ws.toArray := by
        obtain ⟨ws, hws, hb | ⟨w, -, hb⟩⟩ := run_of_realizes h bound
        · exact ⟨ws, hws, by rw [hb]⟩
        · exact ⟨ws, hws, by rw [hb]⟩
      obtain ⟨ws, hws, hout⟩ := hpart
      have hline : (ws.map line)[i]? = some text := by
        rw [hout] at hi
        exact hi
      obtain ⟨more, hmore⟩ := hws.map line
      refine ⟨bound, ?_⟩
      rw [← hmore, List.getElem?_append_left (List.getElem?_eq_some_iff.mp hline).1]
      exact hline
  total := by
    by_cases hd : Diverges run
    · exact .inr hd
    · obtain ⟨budget, hb⟩ := Classical.not_forall.mp hd
      have hreal := h budget
      cases hr : run budget with
      | value ws w => exact .inl ⟨_, budget, ws, w, hr, rfl⟩
      | unfinished ws => exact absurd ⟨ws, hr⟩ hb
      | undefined =>
        rw [hr] at hreal
        exact hreal.elim
  neverStuck bound := by
    rw [Module.run_eq hs]
    obtain ⟨ws, -, hb | ⟨w, -, hb⟩⟩ := run_of_realizes h bound
    · rw [hb]
      intro h
      cases h
    · rw [hb]
      intro h
      cases h

/-! ## Modules with the same functions -/

theorem Machine.step_congr {m m' : Module} (hf : ∀ symbol, m'.function? symbol = m.function? symbol)
    (hg : m'.globals = m.globals) (s : Machine) : step m' s = step m s := by
  have hprints : m'.printsWord = m.printsWord := by
    funext name
    rw [Module.printsWord, hg, ← Module.printsWord]
  have hprint : print m' = print m := by
    funext f callers n args
    unfold print
    rw [hprints]
  have hcall : call m' = call m := by
    funext f callers n symbol args
    simp only [call, hf]
  unfold step
  rw [hprint, hcall]

/-- A run depends on what symbols lead to and on the constant texts, not on the order of the
functions. -/
theorem Module.run_congr {m m' : Module} (hf : ∀ symbol, m'.function? symbol = m.function? symbol)
    (hg : m'.globals = m.globals) (bound : Nat) : m'.run bound = m.run bound := by
  have hrun : ∀ bound s printed,
      Machine.run m' bound s printed = Machine.run m bound s printed := by
    intro bound
    induction bound with
    | zero => exact fun _ _ => rfl
    | succ bound ih =>
      intro s printed
      rw [Machine.run, Machine.run, Machine.step_congr hf hg]
      simp only [ih]
  have hstart : Machine.start? m' = Machine.start? m := by
    simp only [Machine.start?, hf]
  simp only [Module.run, hstart, hrun]

end Looplet.Code
