import Looplet.Proofs.Token.Munch

/-!
# Where a piece ends

Whether a piece is the longest one at its place is decided by one character, the one after it:
blanks, comments, numbers and words each go on with characters of their own, which their first
character tells (`goesOn`), and operators go on with none (`isLongest_iff`).
-/

namespace Looplet

/-- Whether a piece that starts with the first character goes on with the second one. -/
def goesOn (first c : Char) : Bool :=
  if Text.isBlank first then Text.isBlank c
  else if first = '/' then c ≠ '\n'
  else if first.isDigit then c.isDigit
  else isWordStart first && isWordPart c

theorem goesOn_blank {first : Char} (h : Text.isBlank first = true) :
    goesOn first = Text.isBlank := by
  funext c
  rw [goesOn, if_pos h]

theorem goesOn_slash : goesOn '/' = fun c => decide (c ≠ '\n') := by
  funext c
  rw [goesOn, if_neg (by decide), if_pos rfl]

theorem goesOn_digit {first : Char} (h : first.isDigit = true) : goesOn first = Char.isDigit := by
  have hslash : first ≠ '/' := by
    rintro rfl
    exact absurd h (by decide)
  funext c
  rw [goesOn, if_neg (by simp [isBlank_of_isDigit h]), if_neg hslash, if_pos h]

theorem goesOn_word {first : Char} (h : isWordStart first = true) : goesOn first = isWordPart := by
  have hslash : first ≠ '/' := by
    rintro rfl
    exact absurd h (by decide)
  funext c
  rw [goesOn, if_neg (by simp [isBlank_of_isWordStart h]), if_neg hslash,
    if_neg (by simp [isDigit_of_isWordStart h]), h, Bool.true_and]

theorem goesOn_operator {t : String} (ht : t ∈ operatorTexts) {first : Char}
    (hfirst : t.toList.head? = some first) (c : Char) : goesOn first c = false := by
  obtain ⟨d, ds, htext, hblank, hslash, hdigit, hword⟩ := start_of_mem_operatorTexts t ht
  rw [htext] at hfirst
  cases hfirst
  rw [goesOn, if_neg (by simp [hblank]), if_neg hslash, if_neg (by simp [hdigit]), hword,
    Bool.false_and]

namespace Piece

open Lexeme

/-- The piece does not go on with what comes next. -/
def EndsBefore (p : Piece) (rest : List Char) : Prop :=
  ∀ first ∈ p.text.head?, ∀ c ∈ rest.head?, goesOn first c = false

/-- A piece is an operator, or all of it after its first character is what it goes on with, and the
lexer takes as much of that as there is. -/
theorem Formed.operator_or_run {p : Piece} (h : p.Formed) :
    (∃ t ∈ operatorTexts, p.text = t.toList) ∨
      ∃ first cs, p.text = first :: cs ∧ (∀ c ∈ cs, goesOn first c = true) ∧
        ∀ more, ∃ l, Lexeme.first? (first :: (cs ++ more)) = some l ∧
          l.text = first :: (cs ++ more).takeWhile (goesOn first) := by
  have hword : ∀ {c : Char} {cs : List Char}, isWordStart c = true →
      (∀ d ∈ cs, isWordPart d = true) → ∃ first cs', c :: cs = first :: cs' ∧
        (∀ c ∈ cs', goesOn first c = true) ∧ ∀ more, ∃ l,
          Lexeme.first? (first :: (cs' ++ more)) = some l ∧
            l.text = first :: (cs' ++ more).takeWhile (goesOn first) := by
    intro c cs hc hcs
    refine ⟨c, cs, rfl, ?_, fun more => ⟨_, first?_word hc _, ?_⟩⟩
    · rwa [goesOn_word hc]
    · rw [goesOn_word hc]
  cases h with
  | @blanks cs hne h =>
    obtain ⟨c, cs, rfl⟩ := List.exists_cons_of_ne_nil hne
    rw [List.forall_mem_cons] at h
    refine .inr ⟨c, cs, rfl, ?_, fun more => ⟨_, first?_blank h.1 _, ?_⟩⟩
    · rw [goesOn_blank h.1]
      exact h.2
    · rw [goesOn_blank h.1]
  | @comment cs h =>
    refine .inr ⟨'/', '/' :: cs, rfl, ?_, fun more => ⟨_, first?_comment (cs ++ more), ?_⟩⟩
    · rw [goesOn_slash]
      simp only [List.forall_mem_cons, decide_eq_true_eq]
      exact ⟨by decide, fun c hc hn => h (hn ▸ hc)⟩
    · rw [goesOn_slash]
      rfl
  | @number cs hne h =>
    obtain ⟨c, cs, rfl⟩ := List.exists_cons_of_ne_nil hne
    rw [List.forall_mem_cons] at h
    refine .inr ⟨c, cs, rfl, ?_, fun more => ⟨_, first?_digit h.1 _, ?_⟩⟩
    · rw [goesOn_digit h.1]
      exact h.2
    · rw [goesOn_digit h.1]
  | @keyword k cs hk hs =>
    obtain ⟨c, cs, rfl, hc, h⟩ := word_of_keyword hk hs
    exact .inr (hword hc h)
  | @name c cs hc h hk => exact .inr (hword hc h)
  | @operator k cs hk hs => exact .inl ⟨_, mem_operatorTexts hk hs, by simp⟩

/-- What the lexer takes where a piece stands is that piece exactly if the piece ends there. -/
theorem Formed.first?_eq {p : Piece} (h : p.Formed) (rest : List Char) :
    ∃ l, Lexeme.first? (p.text ++ rest) = some l ∧ (l.text = p.text ↔ p.EndsBefore rest) := by
  rcases h.operator_or_run with ⟨t, ht, htext⟩ | ⟨first, cs, htext, hcs, hrun⟩
  · rw [htext]
    refine ⟨_, first?_operator ht (List.prefix_append ..), fun _ first hfirst c _ => ?_,
      fun _ => rfl⟩
    rw [htext] at hfirst
    exact goesOn_operator ht hfirst c
  · obtain ⟨l, hl, hltext⟩ := hrun rest
    refine ⟨l, by rw [htext]; exact hl, ?_⟩
    rw [hltext, htext, List.takeWhile_append_of_pos hcs]
    have hends : p.EndsBefore rest ↔ ∀ c ∈ rest.head?, goesOn first c = false := by
      simp [EndsBefore, htext]
    rw [hends]
    cases rest with
    | nil => simp
    | cons c rest =>
      cases hc : goesOn first c with
      | true => simp [hc]
      | false => simp [hc]

/-- A piece is the longest one exactly if it does not go on. -/
theorem isLongest_iff {p : Piece} (h : p.Formed) {rest : List Char} :
    p.IsLongest (p.text ++ rest) ↔ p.EndsBefore rest := by
  obtain ⟨l, hl, hends⟩ := h.first?_eq rest
  rw [← hends]
  constructor
  · intro hp
    obtain ⟨l', hl', htext, -⟩ := hp.first?
    rw [hl] at hl'
    cases hl'
    exact htext
  · intro htext
    refine ⟨h, List.prefix_append .., fun q hq hfront => ?_⟩
    obtain ⟨l', hl', hle, -⟩ := hq.first? hfront
    rw [hl] at hl'
    cases hl'
    rwa [← htext]

end Piece

end Looplet
