import Looplet.Proofs.Bound.Moved
import Looplet.Proofs.Emission
import Looplet.Proofs.Token.Skim
import Looplet.Proofs.Tree.Language

/-!
# Layout does not matter

Positions go from the tokens into the tree, the table and the errors, but nothing is decided by
them. So two texts with the same tokens, wherever these stand, are compiled to the same module, or
fail with the same error up to places (`CompileError.SameButPlace`). In both texts all positions are
moved to one place, where they are the same:

    ts.map content = us.map content → ts.map (moved f) = us.map (moved f)      f constant

Each stage keeps that (`ofTokens_moved`, `resolve_moved`, `lower_moved`).
-/

namespace Looplet

/-! ## Errors without their places -/

/-- The same rule is broken by the same names. -/
inductive Resolve.Violation.SameButPlace : Violation → Violation → Prop where
  | refl (v : Violation) : SameButPlace v v
  | declaredAndDefined (name : String) (p q : Position) :
    SameButPlace (.declaredAndDefined name p) (.declaredAndDefined name q)

/-- The same is expected and the same is found, or the same rule is broken, or the same is
refused. -/
inductive CompileError.SameButPlace : CompileError → CompileError → Prop where
  | parse {e e' : Parser.Error} (hexpected : e.expectedText = e'.expectedText)
    (hfound : e.foundText = e'.foundText) : SameButPlace (.parse e) (.parse e')
  | resolve {e e' : Resolve.Error} (h : e.violation.SameButPlace e'.violation) :
    SameButPlace (.resolve e) (.resolve e')
  | lowering (r : Lowering.Refusal) : SameButPlace (.lowering r) (.lowering r)

theorem CompileError.SameButPlace.stage_eq {e e' : CompileError} (h : e.SameButPlace e') :
    e.stage = e'.stage := by
  cases h <;> rfl

theorem Parser.Error.texts_moved {f : Position → Position} (e : Error) :
    (e.moved f).expectedText = e.expectedText ∧ (e.moved f).foundText = e.foundText := by
  cases e <;> exact ⟨rfl, rfl⟩

theorem Resolve.Violation.sameButPlace_moved {f : Position → Position} (v : Violation) :
    v.SameButPlace (v.moved f) := by
  cases v <;> constructor

theorem Resolve.Violation.SameButPlace.symm {v v' : Violation} (h : v.SameButPlace v') :
    v'.SameButPlace v := by
  cases h <;> constructor

theorem Resolve.Violation.SameButPlace.trans {v v' v'' : Violation} (h : v.SameButPlace v')
    (h' : v'.SameButPlace v'') : v.SameButPlace v'' := by
  cases h <;> cases h' <;> constructor

theorem Resolve.Error.violation_moved {f : Position → Position} (e : Error) :
    (e.moved f).violation = e.violation.moved f := by
  rcases e with ⟨p, v⟩
  cases v <;> rfl

/-! ## Stages -/

variable {f : Position → Position}

theorem Lowering.builtinsOf_moved (ds : List Bound.Declaration) :
    builtinsOf (ds.map fun d => { d with position := f d.position }) = builtinsOf ds := by
  induction ds with
  | nil => rfl
  | cons d ds ih =>
    rw [List.map_cons, builtinsOf, builtinsOf, ih]
    rfl

theorem lower_moved (b : Bound.Program) : lower (b.moved f) = lower b := by
  rw [lower, lower, Bound.Program.moved, Lowering.builtinsOf_moved]

/-- Trees that are the same at other positions are compiled to the same, or break the same rule. -/
theorem emit_of_moved_eq {verify : Code.Module → Option String} {t t' : Program}
    (h : t.moved f = t'.moved f) :
    (∃ m, t.emit verify = .ok m ∧ t'.emit verify = .ok m) ∨
      ∃ e e', t.emit verify = .error e ∧ t'.emit verify = .error e' ∧ e.SameButPlace e' := by
  have hresolve := congrArg resolve h
  rw [resolve_moved, resolve_moved] at hresolve
  rcases mapBoth_eq_mapBoth hresolve with ⟨b, b', hb, hb', hmoved⟩ | ⟨e, e', he, he', hmoved⟩
  · have hlower : lower b = lower b' := by
      rw [← lower_moved (f := f), hmoved, lower_moved]
    have hemit : emitProgram verify b = emitProgram verify b' := by
      rw [emitProgram, emitProgram, hlower]
    simp only [Program.emit, hb, hb', hemit]
    cases emitProgram verify b' with
    | ok m => exact .inl ⟨m, rfl, rfl⟩
    | error r => exact .inr ⟨_, _, rfl, rfl, .lowering r⟩
  · have hviolation := congrArg Resolve.Error.violation hmoved
    rw [Resolve.Error.violation_moved, Resolve.Error.violation_moved] at hviolation
    refine .inr ⟨.resolve e, .resolve e', ?_, ?_, .resolve ?_⟩
    · rw [Program.emit, he]
    · rw [Program.emit, he']
    · exact e.violation.sameButPlace_moved.trans (hviolation ▸ e'.violation.sameButPlace_moved.symm)

/-! ## Texts -/

theorem moved_of_content_eq {ts us : List Token} (h : ts.map Token.content = us.map Token.content)
    (p : Position) : ts.map (Token.moved fun _ => p) = us.map (Token.moved fun _ => p) := by
  have hmoved : Token.moved (fun _ => p) = (fun c => ⟨c.1, c.2, p⟩) ∘ Token.content := rfl
  rw [hmoved, ← List.map_map, ← List.map_map, h]

/-- Tokens are read as they are at other positions. -/
theorem Parser.Terminated.ofTokens_map_moved {ts : List Token} (h : Terminated ts) :
    Program.ofTokens (ts.map (Token.moved f))
      = mapBoth (Error.moved f) (Program.moved f) (Program.ofTokens ts) := by
  obtain ⟨before, e, after, rfl, -, he⟩ := exists_first_ending h
  refine ofTokens_moved h ?_ ?_
  · obtain ⟨last, hlast, hk⟩ := h
    exact ⟨last.moved f, by rw [List.getLast?_map, hlast]; rfl, hk⟩
  · rw [List.map_append, List.map_cons]
    exact .append before he after _

/-- The tokens of a text are read as they are at other positions. -/
theorem ofTokens_map_moved {src : String} {ts : List Token} (h : tokenize src = .ok ts) :
    Program.ofTokens (ts.map (Token.moved f))
      = mapBoth (Parser.Error.moved f) (Program.moved f) (Program.ofTokens ts) := by
  obtain ⟨body, e, rfl, -, he⟩ := exists_ending_of_tokenize h
  exact Parser.Terminated.ofTokens_map_moved ⟨e, by simp, he⟩

theorem parse_eq_ok {src : String} {p : Program} :
    parse src = .ok p ↔ ∃ ts, tokenize src = .ok ts ∧ Program.ofTokens ts = .ok p := by
  unfold parse
  cases tokenize src with
  | error e => simp
  | ok ts => cases hp : Program.ofTokens ts <;> simp [hp]

/-- Texts with the same tokens are compiled to the same, or fail alike. -/
theorem compileVerified_of_content_eq (verify : Code.Module → Option String) {src src' : String}
    {ts ts' : List Token} (hts : tokenize src = .ok ts) (hts' : tokenize src' = .ok ts')
    (h : ts.map Token.content = ts'.map Token.content) :
    (∃ m, compileVerified verify src = .ok m ∧ compileVerified verify src' = .ok m) ∨
      ∃ e e', compileVerified verify src = .error e ∧ compileVerified verify src' = .error e' ∧
        e.SameButPlace e' := by
  have hread := congrArg Program.ofTokens (moved_of_content_eq h .start)
  rw [ofTokens_map_moved hts, ofTokens_map_moved hts'] at hread
  simp only [compileVerified, parse, hts, hts']
  rcases mapBoth_eq_mapBoth hread with ⟨t, t', ht, ht', hmoved⟩ | ⟨e, e', he, he', hmoved⟩
  · rw [ht, ht']
    exact emit_of_moved_eq hmoved
  · rw [he, he']
    refine .inr ⟨_, _, rfl, rfl, .parse ?_ ?_⟩
    · rw [← e.texts_moved.1, hmoved, e'.texts_moved.1]
    · rw [← e.texts_moved.2, hmoved, e'.texts_moved.2]

/-- Layout does not matter. Two texts whose tokens have the same kinds and texts are compiled to the
same module, or fail with the same error up to places; and blanks and comments that are put in
before a token, the ending one included, leave the kinds and texts of the tokens as they are. -/
theorem layout_insignificant (verify : Code.Module → Option String) :
    (∀ (src src' : String) (ts ts' : List Token), tokenize src = .ok ts →
      tokenize src' = .ok ts' → ts.map Token.content = ts'.map Token.content →
      (∃ m, compileVerified verify src = .ok m ∧ compileVerified verify src' = .ok m) ∨
        ∃ e e', compileVerified verify src = .error e ∧
          compileVerified verify src' = .error e' ∧ e.stage = e'.stage ∧ e.SameButPlace e') ∧
    ∀ (before after layout : String) (ts : List Token), tokenize (before ++ after) = .ok ts →
      (∃ t ∈ ts, t.position = Position.start.advance before.toList) → IsLayout layout.toList →
      ∃ us, tokenize (before ++ layout ++ after) = .ok us ∧
        us.map Token.content = ts.map Token.content := by
  constructor
  · intro src src' ts ts' hts hts' h
    rcases compileVerified_of_content_eq verify hts hts' h with hm | ⟨e, e', he, he', hsame⟩
    · exact .inl hm
    · exact .inr ⟨e, e', he, he', hsame.stage_eq, hsame⟩
  · rintro before after layout ts hts ⟨t, ht, hposition⟩ hlayout
    exact exists_tokenize_insert hts ht hposition hlayout

/-- A text where a name is declared and defined. -/
def clashing : String := "func f(); func f() \x7b \x7d func main() \x7b \x7d"

/-- A comment of one line. -/
def remark : String := "// items\n"

theorem clashing_sameButPlace :
    ∃ e e', compileVerified lastVerified clashing = .error e ∧
      compileVerified lastVerified (remark ++ clashing) = .error e' ∧ e ≠ e' ∧
      e.SameButPlace e' := by
  obtain ⟨ts, hts⟩ : ∃ ts, tokenize clashing = .ok ts := exists_ok (by decide +kernel)
  have hfirst : (tokenize clashing).map (fun ts => ts.any fun t => t.position = .start)
      = .ok true := by
    decide +kernel
  rw [hts] at hfirst
  obtain ⟨t, ht, hposition⟩ := List.any_eq_true.mp (Except.ok.inj hfirst)
  have hlayout : IsLayout remark.toList :=
    @IsLayout.comment " items".toList [] (by decide) .nil
  obtain ⟨hcompile, hinsert⟩ := layout_insignificant lastVerified
  obtain ⟨us, hus, hsame⟩ := hinsert "" clashing remark ts hts
    ⟨t, ht, by simpa using hposition⟩ hlayout
  rw [String.empty_append] at hus
  have hdiffer : compileVerified lastVerified clashing
        = .error (.resolve ⟨⟨1, 11⟩, .declaredAndDefined "f" ⟨1, 1⟩⟩) ∧
      compileVerified lastVerified (remark ++ clashing)
        = .error (.resolve ⟨⟨2, 11⟩, .declaredAndDefined "f" ⟨2, 1⟩⟩) := by
    decide +kernel
  rcases hcompile _ _ ts us hts hus hsame.symm with ⟨m, hm, -⟩ | ⟨e, e', he, he', -, hplaces⟩
  · rw [hdiffer.1] at hm
    cases hm
  · refine ⟨e, e', he, he', ?_, hplaces⟩
    rintro rfl
    have hequal := hdiffer.1.symm.trans (he.trans (he'.symm.trans hdiffer.2))
    exact absurd hequal (by decide)

end Looplet
