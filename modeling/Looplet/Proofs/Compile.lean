import Looplet.Compile
import Looplet.Proofs.Bound.Preservation
import Looplet.Proofs.Lowering.Correctness

/-!
# Compiled texts do what their trees mean

    parse src = .ok t → compile src = .ok m → m.Follows t.run           (compile_follows)

The stages are joined: what a tree means is kept when it is bound, and what a bound program means
is kept when it is lowered.
-/

namespace Looplet

theorem compile_eq_ok {src : String} {m : Code.Module} :
    compile src = .ok m ↔
      ∃ t b, parse src = .ok t ∧ resolve t = .ok b ∧ lower b = .ok m := by
  unfold compile bindSource lowerProgram
  cases parse src with
  | error e => simp
  | ok t =>
    cases hb : resolve t with
    | error e => simp [hb]
    | ok b => cases hm : lower b <;> simp [hb, hm]

/-- A compiled text does what its tree means: the module halts where the program ends and runs
forever where the program does, with the same lines printed, and is never stuck. -/
theorem compile_follows {src : String} {t : Program} {m : Code.Module} (ht : parse src = .ok t)
    (hm : compile src = .ok m) : m.Follows t.run := by
  obtain ⟨t', b, ht', hb, hlower⟩ := compile_eq_ok.mp hm
  rw [ht] at ht'
  cases ht'
  rw [← Resolve.run_resolve hb]
  exact Lowering.lower_follows (Resolve.nodup_functions hb) (Resolve.callsMatch hb)
    (Resolve.accepts_main hb) hlower

/-- A text whose loop is left by its label. -/
def doubling : String :=
  "func print_int(w); func main() \x7b n <- 1; up: while 1 \x7b n <- n + n; print_int(n); " ++
  "if n == 4 \x7b while n \x7b break up; \x7d \x7d \x7d \x7d"

theorem doubling_halts :
    ∃ t m, parse doubling = .ok t ∧ compile doubling = .ok m ∧ m.Halts 0 "2\n4\n" := by
  have hevaluated : (compile doubling).isOk = true ∧
      (parse doubling).map (fun t => t.run 4) = .ok (.value [2, 4] 0) := by
    decide +kernel
  obtain ⟨m, hm⟩ := exists_ok hevaluated.1
  obtain ⟨t, b, ht, -, -⟩ := compile_eq_ok.mp hm
  have hrun := hevaluated.2
  rw [ht] at hrun
  have hends : Ends t.run "2\n4\n" := ⟨4, [2, 4], 0, Except.ok.inj hrun, by decide +kernel⟩
  exact ⟨t, m, ht, hm, ((compile_follows ht hm).halts _).mp hends⟩

end Looplet
