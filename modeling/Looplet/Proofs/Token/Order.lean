import Looplet.Proofs.Token.Munch

/-!
# The order of tokens

Positions are in reading order (`Position.Before`), and every character moves a position on. So the
tokens of a text stand one after the other (`ordered_of_tokenize`), and the position of a place
tells what part of the text is before it (`Position.advance_injective`).
-/

namespace Looplet

namespace Position

/-- The first position comes before the second: on an earlier line, or earlier on the same line. -/
def Before (p q : Position) : Prop :=
  p.line < q.line ∨ p.line = q.line ∧ p.column < q.column

instance (p q : Position) : Decidable (p.Before q) :=
  inferInstanceAs (Decidable (_ ∨ _))

theorem Before.trans {p q r : Position} (h : p.Before q) (h' : q.Before r) : p.Before r := by
  unfold Before at *
  omega

theorem Before.ne {p q : Position} (h : p.Before q) : p ≠ q := by
  rintro rfl
  unfold Before at h
  omega

theorem before_step (p : Position) (c : Char) : p.Before (p.step c) := by
  unfold step Before
  split
  · exact .inl (Nat.lt_succ_self _)
  · exact .inr ⟨rfl, Nat.lt_succ_self _⟩

theorem before_advance (p : Position) {cs : List Char} (h : cs ≠ []) : p.Before (p.advance cs) := by
  induction cs generalizing p with
  | nil => exact absurd rfl h
  | cons c cs ih =>
    rw [advance_cons]
    by_cases hcs : cs = []
    · rw [hcs, advance_nil]
      exact p.before_step c
    · exact (p.before_step c).trans (ih _ hcs)

/-- Two parts at the front of a text that lead to one position are the same. -/
theorem advance_injective {p : Position} {cs xs ys : List Char} (hx : xs <+: cs) (hy : ys <+: cs)
    (h : p.advance xs = p.advance ys) : xs = ys := by
  have hshort : ∀ {us vs : List Char}, us <+: vs → p.advance us = p.advance vs → us = vs := by
    rintro us _ ⟨more, rfl⟩ h
    rw [advance_append] at h
    by_cases hmore : more = []
    · rw [hmore, List.append_nil]
    · exact absurd h ((p.advance us).before_advance hmore).ne
  rcases List.prefix_or_prefix_of_prefix hx hy with hp | hp
  · exact hshort hp h
  · exact (hshort hp h.symm).symm

end Position

/-! ## Tokens -/

/-- A keyword or an operator is written as its kind is. -/
def Token.Spelled (t : Token) : Prop :=
  ∀ s, t.kind.spelling? = some s → t.text = s

/-- The tokens stand one after the other. -/
def Ordered (ts : List Token) : Prop :=
  ts.Pairwise fun t u => t.position.Before u.position

theorem Munch.formed {cs rest : List Char} {ps : List Piece} (h : Munch cs ps rest) :
    ∀ p ∈ ps, p.Formed := by
  induction h with
  | nil => exact List.forall_mem_nil _
  | cons hp _ _ ih => exact List.forall_mem_cons.mpr ⟨hp.formed, ih⟩

/-- A token among pieces is one of them, at the position that the pieces before it lead to. -/
theorem mem_tokensAfter {before : List Char} {ps : List Piece} {t : Token}
    (ht : t ∈ tokensAfter before ps) :
    ∃ ps₁ p ps₂, ps = ps₁ ++ p :: ps₂ ∧ p.kind? = some t.kind ∧ t.text = String.ofList p.text ∧
      t.position = Position.start.advance (before ++ textOf ps₁) := by
  induction ps generalizing before with
  | nil => cases ht
  | cons p ps ih =>
    have hrest : t ∈ tokensAfter (before ++ p.text) ps →
        ∃ ps₁ q ps₂, p :: ps = ps₁ ++ q :: ps₂ ∧ q.kind? = some t.kind ∧
          t.text = String.ofList q.text ∧
          t.position = Position.start.advance (before ++ textOf ps₁) := by
      intro ht
      obtain ⟨ps₁, q, ps₂, rfl, hk, htext, hpos⟩ := ih ht
      refine ⟨p :: ps₁, q, ps₂, rfl, hk, htext, ?_⟩
      rw [hpos, textOf_cons, List.append_assoc]
    rw [tokensAfter] at ht
    split at ht
    · exact hrest ht
    · next k hk =>
      rcases List.mem_cons.mp ht with rfl | ht
      · exact ⟨[], p, ps, rfl, hk, rfl, by simp⟩
      · exact hrest ht

theorem spelled_of_formed {p : Piece} (h : p.Formed) {t : Token} (hk : p.kind? = some t.kind)
    (ht : t.text = String.ofList p.text) : t.Spelled := by
  intro s hs
  rw [ht]
  cases h with
  | blanks => cases hk
  | comment => cases hk
  | number | name =>
    rw [← Option.some.inj hk] at hs
    cases hs
  | keyword hmem hspelling | operator hmem hspelling =>
    cases hk
    rw [hs] at hspelling
    exact (Option.some.inj hspelling).symm

theorem ne_ending_of_formed {p : Piece} (h : p.Formed) {k : Token.Kind} (hk : p.kind? = some k) :
    k ≠ .ending := by
  have hkeywords : .ending ∉ Token.keywords := by decide
  have hoperators : .ending ∉ Token.operators := by decide
  rintro rfl
  cases h with
  | keyword hmem =>
    cases hk
    exact hkeywords hmem
  | operator hmem =>
    cases hk
    exact hoperators hmem
  | _ => cases hk

theorem ordered_tokensAfter {ps : List Piece} (h : ∀ p ∈ ps, p.Formed) (before : List Char) :
    Ordered (tokensAfter before ps
      ++ [Token.endingAt (Position.start.advance (before ++ textOf ps))]) := by
  induction ps generalizing before with
  | nil => exact List.pairwise_singleton ..
  | cons p ps ih =>
    rw [List.forall_mem_cons] at h
    have hrest := ih h.2 (before ++ p.text)
    rw [tokensAfter, textOf_cons, ← List.append_assoc]
    split
    · exact hrest
    · refine List.pairwise_cons.mpr ⟨fun t ht => ?_, hrest⟩
      have hlater : ∀ more, (Position.start.advance before).Before
          (Position.start.advance (before ++ p.text ++ more)) := by
        intro more
        rw [List.append_assoc, Position.advance_append]
        refine Position.before_advance _ fun hnil => ?_
        exact h.1.text_ne_nil (List.append_eq_nil_iff.mp hnil).1
      rcases List.mem_append.mp ht with ht | ht
      · obtain ⟨ps₁, q, ps₂, -, -, -, hpos⟩ := mem_tokensAfter ht
        rw [hpos]
        exact hlater _
      · obtain rfl := List.mem_singleton.mp ht
        exact hlater _

variable {src : String} {ts : List Token}

/-- The tokens of a text are its pieces that are not skipped, and an ending token. -/
theorem exists_munch_of_tokenize (h : tokenize src = .ok ts) :
    ∃ ps, Munch src.toList ps [] ∧
      ts = tokensAfter [] ps ++ [Token.endingAt (Position.start.advance src.toList)] := by
  obtain ⟨ps, rest, hm, hstop⟩ := exists_munch src.toList
  rcases hstop with rfl | ⟨fault, hs⟩
  · rw [tokenize_of_munch_nil hm] at h
    exact ⟨ps, hm, (Except.ok.inj h).symm⟩
  · rw [tokenize_of_stops hm hs] at h
    cases h

/-- The tokens of a text hold one ending token, the last one. -/
theorem exists_ending_of_tokenize (h : tokenize src = .ok ts) :
    ∃ body e, ts = body ++ [e] ∧ (∀ t ∈ body, t.kind ≠ .ending) ∧ e.kind = .ending := by
  obtain ⟨ps, hm, rfl⟩ := exists_munch_of_tokenize h
  refine ⟨_, _, rfl, fun t ht => ?_, rfl⟩
  obtain ⟨ps₁, p, ps₂, rfl, hk, -, -⟩ := mem_tokensAfter ht
  exact ne_ending_of_formed (hm.formed p (by simp)) hk

theorem ordered_of_tokenize (h : tokenize src = .ok ts) : Ordered ts := by
  obtain ⟨ps, hm, rfl⟩ := exists_munch_of_tokenize h
  have htext := hm.textOf_append
  rw [List.append_nil] at htext
  have hordered := ordered_tokensAfter hm.formed []
  rwa [List.nil_append, htext] at hordered

theorem spelled_of_tokenize (h : tokenize src = .ok ts) : ∀ t ∈ ts, t.Spelled := by
  obtain ⟨ps, hm, rfl⟩ := exists_munch_of_tokenize h
  rw [List.forall_mem_append, List.forall_mem_singleton]
  refine ⟨fun t ht => ?_, nofun⟩
  obtain ⟨ps₁, p, ps₂, rfl, hk, htext, -⟩ := mem_tokensAfter ht
  exact spelled_of_formed (hm.formed p (by simp)) hk htext

end Looplet
