import Looplet.Proofs.Token.Skim

/-!
# Operators that are put in

No token goes on with an operator, and an operator goes on with nothing. So an operator that is put
in before a token is a token of its own: those before it stay where they are, and those after it
stay the same up to their positions (`exists_tokenize_operator`). The end of the text is no such
place, as a comment may be open there.
-/

namespace Looplet

variable {w : String}

theorem Piece.Formed.endsBefore_operator {q : Piece} (h : q.Formed) {k : Token.Kind}
    (hk : q.kind? = some k) (hw : w ∈ operatorTexts) (rest : List Char) :
    q.EndsBefore (w.toList ++ rest) := by
  obtain ⟨d, ds, htext, -, -, hdigit, hword⟩ := start_of_mem_operatorTexts w hw
  rw [htext]
  rintro first hfirst _ ⟨⟩
  exact h.goesOn_of_start hk hfirst hdigit hword

/-- An operator can be put in where reading stops, before anything but a line feed. -/
theorem Skim.before_operator {p : Position} {cs rest : List Char} {ts : List Token}
    (h : Skim p cs ts rest) (hw : w ∈ operatorTexts) (hrest : ∃ c ∈ rest.head?, c ≠ '\n') :
    ∃ a, cs = a ++ rest ∧ Skim p (a ++ (w.toList ++ rest)) ts (w.toList ++ rest) := by
  induction h with
  | nil => exact ⟨[], rfl, .nil⟩
  | @blank p c cs ts rest hc _ ih =>
    obtain ⟨a, rfl, h⟩ := ih hrest
    exact ⟨c :: a, rfl, .blank hc h⟩
  | @comment p cs more ts rest hcs hmore _ ih =>
    obtain ⟨a, rfl, h⟩ := ih hrest
    cases a with
    | nil =>
      obtain ⟨c, hc, hn⟩ := hrest
      exact absurd (hmore c hc) hn
    | cons c a =>
      refine ⟨'/' :: '/' :: (cs ++ c :: a), by simp, ?_⟩
      have hskim := Skim.comment hcs (by simpa using hmore) h
      simpa using hskim
  | @token p q k cs ts rest hq hk hfits hends _ ih =>
    obtain ⟨a, rfl, h⟩ := ih hrest
    refine ⟨q.text ++ a, by simp, ?_⟩
    have hends' : q.EndsBefore (a ++ (w.toList ++ rest)) := by
      cases a with
      | nil => exact hq.endsBefore_operator hk hw rest
      | cons c a => exact hends
    have hskim := Skim.token hq hk hfits hends' h
    simpa using hskim

theorem skim_operator {k : Token.Kind} (hk : k ∈ Token.operators) (hs : k.spelling? = some w)
    {p : Position} {cs rest : List Char} {ts : List Token}
    (h : Skim (p.advance w.toList) cs ts rest) :
    Skim p (w.toList ++ cs) (⟨k, w, p⟩ :: ts) rest := by
  have hformed : (⟨some k, w.toList⟩ : Piece).Formed := .operator hk (by simpa using hs)
  have hfits : (⟨some k, w.toList⟩ : Piece).Fits := by
    intro hnumber
    cases hnumber
    exact absurd hk (by decide)
  have hends : (⟨some k, w.toList⟩ : Piece).EndsBefore cs := fun first hfirst c _ =>
    goesOn_operator (mem_operatorTexts hk hs) hfirst c
  have hskim := Skim.token hformed rfl hfits hends h
  simpa using hskim

/-- An operator put in before a token is one more token there. -/
theorem exists_tokenize_operator {before after : String} {us vs : List Token} {t : Token}
    (h : tokenize (before ++ after) = .ok (us ++ t :: vs)) (ht : t.kind ≠ .ending)
    (hposition : t.position = Position.start.advance before.toList) {k : Token.Kind}
    (hk : k ∈ Token.operators) (hs : k.spelling? = some w) :
    ∃ vs', tokenize (before ++ w ++ after) = .ok (us ++ ⟨k, w, t.position⟩ :: vs') ∧
      vs'.map Token.content = (t :: vs).map Token.content := by
  obtain ⟨ts, hts, hsplit⟩ := tokenize_eq_ok.mp h
  rw [String.toList_append] at hts
  -- the token is not the ending one, so it is one of those that are read
  obtain ⟨vs₁, rfl, rfl⟩ : ∃ vs₁, ts = us ++ t :: vs₁ ∧
      vs = vs₁ ++ [Token.endingAt (Position.start.advance (before ++ after).toList)] := by
    obtain ⟨more, rfl, hmore⟩ | ⟨more, rfl, hmore⟩ := List.append_eq_append_iff.mp hsplit
    · cases more with
      | nil =>
        cases hmore
        exact absurd rfl ht
      | cons u more =>
        cases hmore
        exact ⟨more, rfl, rfl⟩
    · cases more with
      | nil =>
        cases hmore
        exact absurd rfl ht
      | cons u more =>
        have hlength := congrArg List.length hmore
        simp at hlength
  obtain ⟨a, b, hcs, hpos, hus, hvs, hnl⟩ := hts.exists_cut rfl
  have ha : before.toList = a := Position.advance_injective (List.prefix_append _ _)
    (hcs ▸ List.prefix_append a b) (hposition.symm.trans hpos)
  rw [ha] at hcs
  obtain rfl := List.append_cancel_left hcs
  have hstart : ∃ c ∈ after.toList.head?, c ≠ '\n' := by
    cases hafter : after.toList with
    | nil =>
      rw [hafter] at hvs
      cases hvs.eq_nil
    | cons c cs => exact ⟨c, rfl, fun hn => hnl (by rw [hafter, hn]; rfl)⟩
  obtain ⟨a', ha', hfront⟩ := hus.before_operator (mem_operatorTexts hk hs) hstart
  obtain rfl := List.append_cancel_right ha'
  obtain ⟨vs₂, hvs₂, hsame⟩ := hvs.exists_at (t.position.advance w.toList)
  have hread : Skim Position.start (before.toList ++ (w.toList ++ after.toList))
      (us ++ ⟨k, w, t.position⟩ :: vs₂) [] := by
    refine hfront.trans fun front hsplit => ?_
    obtain rfl := List.append_cancel_right hsplit
    rw [← hposition]
    exact skim_operator hk hs hvs₂
  refine ⟨vs₂ ++ [Token.endingAt (Position.start.advance (before ++ w ++ after).toList)],
    tokenize_eq_ok.mpr ⟨_, by simpa using hread, ?_⟩, ?_⟩
  · rw [List.append_assoc, List.cons_append]
  · rw [List.map_append, hsame, ← List.cons_append, List.map_append]
    rfl

end Looplet
