import Looplet.Proofs.Token.Boundary
import Looplet.Proofs.Token.Order

/-!
# Skipping between tokens

A text is read with its blanks skipped one by one (`Skim`), which comes to the same tokens as taking
it apart into pieces (`tokenize_eq_ok`), or to the same fault (`tokenize_eq_error`), but a text can
be cut anywhere between two tokens. So what may be skipped may be put in before any token, and at
the end: the tokens stay the same up to their positions (`exists_tokenize_insert`).
-/

namespace Looplet

/-- From the position on, the text is read as the tokens and a rest. A comment goes up to a line
feed or to the end. -/
inductive Skim : Position → List Char → List Token → List Char → Prop where
  | nil {p : Position} {cs : List Char} : Skim p cs [] cs
  | blank {p : Position} {c : Char} {cs : List Char} {ts : List Token} {rest : List Char}
    (hc : Text.isBlank c = true) (h : Skim (p.step c) cs ts rest) : Skim p (c :: cs) ts rest
  | comment {p : Position} {cs more : List Char} {ts : List Token} {rest : List Char}
    (hcs : '\n' ∉ cs) (hmore : ∀ c ∈ more.head?, c = '\n')
    (h : Skim (p.advance ('/' :: '/' :: cs)) more ts rest) :
    Skim p ('/' :: '/' :: (cs ++ more)) ts rest
  | token {p : Position} {q : Piece} {k : Token.Kind} {cs : List Char} {ts : List Token}
    {rest : List Char} (hq : q.Formed) (hk : q.kind? = some k) (hfits : q.Fits)
    (hends : q.EndsBefore cs) (h : Skim (p.advance q.text) cs ts rest) :
    Skim p (q.text ++ cs) (⟨k, String.ofList q.text, p⟩ :: ts) rest

/-! ## Pieces -/

theorem Skim.blanks {p : Position} {bs cs : List Char} {ts : List Token} {rest : List Char}
    (hbs : ∀ c ∈ bs, Text.isBlank c = true) (h : Skim (p.advance bs) cs ts rest) :
    Skim p (bs ++ cs) ts rest := by
  induction bs generalizing p with
  | nil => exact h
  | cons b bs ih =>
    rw [List.forall_mem_cons] at hbs
    rw [Position.advance_cons] at h
    exact .blank hbs.1 (ih hbs.2 h)

/-- Taking a text apart into pieces reads it. -/
theorem skim_of_munch {cs rest : List Char} {ps : List Piece} (h : Munch cs ps rest)
    (before : List Char) :
    Skim (Position.start.advance before) cs (tokensAfter before ps) rest := by
  induction h generalizing before with
  | nil => exact .nil
  | @cons q cs ps rest hq hfits _ ih =>
    have hrest := ih (before ++ q.text)
    have hends := (Piece.isLongest_iff hq.formed).mp hq
    rw [Position.advance_append] at hrest
    rw [tokensAfter]
    cases hk : q.kind? with
    | some k => exact .token hq.formed hk hfits hends hrest
    | none =>
      have hformed := hq.formed
      cases hformed with
      | blanks hne hbs => exact .blanks hbs hrest
      | @comment bs hbs =>
        refine .comment hbs (fun c hc => ?_) hrest
        simpa [goesOn_slash] using hends '/' rfl c hc
      | _ => cases hk

/-- A token starts with a character that nothing skipped starts with. -/
theorem Piece.Formed.start {q : Piece} (h : q.Formed) {k : Token.Kind} (hk : q.kind? = some k) :
    ∃ c cs, q.text = c :: cs ∧ Text.isBlank c = false ∧ c ≠ '/' := by
  have hword : ∀ {c : Char}, isWordStart c = true → Text.isBlank c = false ∧ c ≠ '/' := by
    intro c hc
    refine ⟨isBlank_of_isWordStart hc, ?_⟩
    rintro rfl
    exact absurd hc (by decide)
  cases h with
  | blanks | comment => cases hk
  | number hne hdigits =>
    obtain ⟨c, cs, rfl⟩ := List.exists_cons_of_ne_nil hne
    have hc := hdigits c (List.mem_cons_self ..)
    refine ⟨c, cs, rfl, isBlank_of_isDigit hc, ?_⟩
    rintro rfl
    exact absurd hc (by decide)
  | keyword hmem hs =>
    obtain ⟨c, cs, rfl, hc, -⟩ := word_of_keyword hmem hs
    exact ⟨c, cs, rfl, hword hc⟩
  | @name c cs hc => exact ⟨c, cs, rfl, hword hc⟩
  | operator hmem hs =>
    obtain ⟨c, cs, htext, hblank, hslash, -⟩ :=
      start_of_mem_operatorTexts _ (mem_operatorTexts hmem hs)
    exact ⟨c, cs, by simpa using htext, hblank, hslash⟩

/-- A token goes on with digits and letters only. -/
theorem Piece.Formed.goesOn_of_start {q : Piece} (h : q.Formed) {k : Token.Kind}
    (hk : q.kind? = some k) {first : Char} (hfirst : first ∈ q.text.head?) {c : Char}
    (hdigit : c.isDigit = false) (hword : isWordStart c = false) : goesOn first c = false := by
  obtain ⟨first', cs, htext, hblank, hslash⟩ := h.start hk
  obtain rfl : first' = first := by simpa [htext] using hfirst
  simp [goesOn, hblank, hslash, isWordPart, hdigit, hword]

/-- No token goes on with what something skipped starts with. -/
theorem Piece.Formed.goesOn_eq_false {q : Piece} (h : q.Formed) {k : Token.Kind}
    (hk : q.kind? = some k) {first : Char} (hfirst : first ∈ q.text.head?) {c : Char}
    (hc : Text.isBlank c = true ∨ c = '/') : goesOn first c = false := by
  refine h.goesOn_of_start hk hfirst ?_ ?_
  · rcases hc with hc | rfl
    · exact Bool.eq_false_iff.mpr fun hd => by simp [isBlank_of_isDigit hd] at hc
    · rfl
  · rcases hc with hc | rfl
    · exact Bool.eq_false_iff.mpr fun hw => by simp [isBlank_of_isWordStart hw] at hc
    · rfl

theorem endsBefore_blanks {c : Char} (hc : Text.isBlank c = true) {cs rest : List Char} :
    (⟨none, c :: cs⟩ : Piece).EndsBefore rest ↔ ∀ d ∈ rest.head?, Text.isBlank d = false := by
  simp [Piece.EndsBefore, goesOn_blank hc]

/-- A blank before pieces is a piece of its own, or part of the blanks that are there. -/
theorem Munch.blank {c : Char} (hc : Text.isBlank c = true) {cs rest : List Char} {ps : List Piece}
    (hrest : ∀ d ∈ rest.head?, Text.isBlank d = false) (h : Munch cs ps rest) :
    ∃ ps', Munch (c :: cs) ps' rest ∧
      ∀ before, tokensAfter before ps' = tokensAfter (before ++ [c]) ps := by
  have hone : (⟨none, [c]⟩ : Piece).Formed := .blanks (by simp) (by simpa using hc)
  have halone : (∀ d ∈ cs.head?, Text.isBlank d = false) → ∃ ps', Munch (c :: cs) ps' rest ∧
      ∀ before, tokensAfter before ps' = tokensAfter (before ++ [c]) ps := by
    intro hcs
    have hlongest := (Piece.isLongest_iff hone).mpr ((endsBefore_blanks hc).mpr hcs)
    exact ⟨⟨none, [c]⟩ :: ps, .cons hlongest (Piece.fits_of_ne nofun) h, fun before => rfl⟩
  cases h with
  | nil => exact halone hrest
  | @cons q cs ps _ hq hfits h =>
    have hends := (Piece.isLongest_iff hq.formed).mp hq
    have hformed := hq.formed
    cases hk : q.kind? with
    | some k =>
      obtain ⟨d, ds, htext, hd, -⟩ := hformed.start hk
      exact halone (by simp [htext, hd])
    | none =>
      cases hformed with
      | comment hds =>
        refine halone ?_
        rintro _ ⟨⟩
        decide
      | @blanks ds hne hds =>
        obtain ⟨d, ds, rfl⟩ := List.exists_cons_of_ne_nil hne
        have hd := hds d (List.mem_cons_self ..)
        have hmerged : (⟨none, c :: d :: ds⟩ : Piece).Formed :=
          .blanks (List.cons_ne_nil _ _) (List.forall_mem_cons.mpr ⟨hc, hds⟩)
        have hnext := (endsBefore_blanks hd).mp hends
        have hlongest := (Piece.isLongest_iff hmerged).mpr ((endsBefore_blanks hc).mpr hnext)
        refine ⟨⟨none, c :: d :: ds⟩ :: ps, .cons hlongest (Piece.fits_of_ne nofun) h,
          fun before => ?_⟩
        simp [tokensAfter]
      | _ => cases hk

/-- A text that is read up to its end, or up to something that is not skipped, can be taken apart
into pieces up to there, with the same tokens. -/
theorem Skim.exists_munch {p : Position} {cs : List Char} {ts : List Token} {rest : List Char}
    (h : Skim p cs ts rest) (hrest : ∀ c ∈ rest.head?, Text.isBlank c = false) :
    ∃ ps, Munch cs ps rest ∧
      ∀ before, Position.start.advance before = p → tokensAfter before ps = ts := by
  induction h with
  | nil => exact ⟨[], .nil, fun _ _ => rfl⟩
  | @blank p c cs ts rest hc _ ih =>
    obtain ⟨ps, hm, hts⟩ := ih hrest
    obtain ⟨ps', hm', hts'⟩ := hm.blank hc hrest
    refine ⟨ps', hm', fun before hbefore => (hts' before).trans (hts _ ?_)⟩
    rw [Position.advance_append, hbefore]
    rfl
  | @comment p cs more ts rest hcs hmore _ ih =>
    obtain ⟨ps, hm, hts⟩ := ih hrest
    have hends : (⟨none, '/' :: '/' :: cs⟩ : Piece).EndsBefore more := by
      rintro _ ⟨⟩ c hc
      simpa [goesOn_slash] using hmore c hc
    refine ⟨⟨none, '/' :: '/' :: cs⟩ :: ps, .cons ((Piece.isLongest_iff (.comment hcs)).mpr hends)
      (Piece.fits_of_ne nofun) hm, fun before hbefore => hts _ ?_⟩
    rw [Position.advance_append, hbefore]
  | @token p q k cs ts rest hq hk hfits hends _ ih =>
    obtain ⟨ps, hm, hts⟩ := ih hrest
    refine ⟨q :: ps, .cons ((Piece.isLongest_iff hq).mpr hends) hfits hm, fun before hbefore => ?_⟩
    have htail := hts (before ++ q.text) (by rw [Position.advance_append, hbefore])
    simp only [tokensAfter, hk, htail, hbefore]

/-- The tokens of a text are those that it is read as, and an ending token. -/
theorem tokenize_eq_ok {src : String} {ts : List Token} :
    tokenize src = .ok ts ↔ ∃ us, Skim Position.start src.toList us [] ∧
      ts = us ++ [Token.endingAt (Position.start.advance src.toList)] := by
  constructor
  · intro h
    obtain ⟨ps, hm, rfl⟩ := exists_munch_of_tokenize h
    exact ⟨tokensAfter [] ps, skim_of_munch hm [], rfl⟩
  · rintro ⟨us, h, rfl⟩
    obtain ⟨ps, hm, hts⟩ := h.exists_munch nofun
    rw [tokenize_of_munch_nil hm, hts [] rfl]

/-- Nothing stops at a blank. -/
theorem Stops.isBlank_eq_false {cs : List Char} {fault : Lexer.Fault} (h : Stops cs fault) :
    ∀ c ∈ cs.head?, Text.isBlank c = false := by
  cases h with
  | @unrecognized c cs h =>
    rintro _ ⟨⟩
    rw [Bool.eq_false_iff]
    intro hc
    exact h ⟨none, [c]⟩ (.blanks (by simp) (by simpa using hc)) (by simp)
  | @oversized q cs hq hfits =>
    obtain ⟨k, hk⟩ : ∃ k, q.kind? = some k :=
      ⟨.number, by_contra fun hk => hfits (Piece.fits_of_ne hk)⟩
    obtain ⟨d, ds, htext, hd, -⟩ := hq.formed.start hk
    obtain ⟨more, rfl⟩ := hq.front
    rw [htext]
    rintro _ ⟨⟩
    exact hd

/-- The fault of a text is what stops its reading, at the position that the text before it leads
to. -/
theorem tokenize_eq_error {src : String} {e : Lexer.Error} :
    tokenize src = .error e ↔ ∃ before rest us, src.toList = before ++ rest ∧
      Skim Position.start src.toList us rest ∧ e.position = Position.start.advance before ∧
      Stops rest e.fault := by
  constructor
  · intro h
    obtain ⟨ps, rest, hm, hstop⟩ := exists_munch src.toList
    rcases hstop with rfl | ⟨fault, hs⟩
    · rw [tokenize_of_munch_nil hm] at h
      cases h
    · rw [tokenize_of_stops hm hs] at h
      cases h
      exact ⟨_, rest, _, hm.textOf_append.symm, skim_of_munch hm [], rfl, hs⟩
  · rintro ⟨before, rest, us, htext, h, hposition, hs⟩
    obtain ⟨ps, hm, -⟩ := h.exists_munch hs.isBlank_eq_false
    obtain rfl : textOf ps = before :=
      List.append_cancel_right (hm.textOf_append.trans htext)
    rw [tokenize_of_stops hm hs, ← hposition]

/-! ## Cutting a text before a token -/

/-- A token that is read cuts the text where it stands. -/
theorem Skim.exists_cut {p : Position} {cs : List Char} {ts us vs : List Token} {t : Token}
    {rest : List Char} (h : Skim p cs ts rest) (hts : ts = us ++ t :: vs) :
    ∃ a b, cs = a ++ b ∧ t.position = p.advance a ∧ Skim p cs us b ∧
      Skim t.position b (t :: vs) rest ∧ '\n' ∉ b.head? := by
  induction h generalizing us with
  | nil => cases us <;> cases hts
  | @blank p c cs ts rest hc _ ih =>
    obtain ⟨a, b, rfl, hpos, hus, hvs, hb⟩ := ih hts
    exact ⟨c :: a, b, rfl, hpos, .blank hc hus, hvs, hb⟩
  | @comment p cs more ts rest hcs hmore _ ih =>
    obtain ⟨a, b, rfl, hpos, hus, hvs, hb⟩ := ih hts
    refine ⟨'/' :: '/' :: (cs ++ a), b, by simp, ?_, .comment hcs hmore hus, hvs, hb⟩
    rw [hpos, ← Position.advance_append, List.cons_append, List.cons_append]
  | @token p q k cs ts rest hq hk hfits hends h ih =>
    cases us with
    | nil =>
      cases hts
      refine ⟨[], q.text ++ cs, rfl, rfl, .nil, .token hq hk hfits hends h, ?_⟩
      obtain ⟨c, ds, htext, hc, -⟩ := hq.start hk
      rw [htext, List.cons_append, List.head?_cons, Option.mem_some]
      rintro rfl
      exact absurd hc (by decide)
    | cons u us =>
      cases hts
      obtain ⟨a, b, rfl, hpos, hus, hvs, hb⟩ := ih rfl
      refine ⟨q.text ++ a, b, by simp, ?_, .token hq hk hfits hends hus, hvs, hb⟩
      rw [hpos, Position.advance_append]

/-- What a token is apart from where it stands. -/
def Token.content (t : Token) : Token.Kind × String := (t.kind, t.text)

/-- From another position on the same is read. -/
theorem Skim.exists_at {p : Position} {cs : List Char} {ts : List Token} {rest : List Char}
    (h : Skim p cs ts rest) (p' : Position) :
    ∃ us, Skim p' cs us rest ∧ us.map Token.content = ts.map Token.content := by
  induction h generalizing p' with
  | nil => exact ⟨[], .nil, rfl⟩
  | blank hc _ ih =>
    obtain ⟨us, hus, hsame⟩ := ih _
    exact ⟨us, .blank hc hus, hsame⟩
  | comment hcs hmore _ ih =>
    obtain ⟨us, hus, hsame⟩ := ih _
    exact ⟨us, .comment hcs hmore hus, hsame⟩
  | token hq hk hfits hends _ ih =>
    obtain ⟨us, hus, hsame⟩ := ih _
    exact ⟨_ :: us, .token hq hk hfits hends hus, by rw [List.map_cons, List.map_cons, hsame]; rfl⟩

/-- Where reading stops it can go on, wherever that is. -/
theorem Skim.exists_append {p p' : Position} {cs mid rest : List Char} {ts us : List Token}
    (h : Skim p cs ts mid) (h' : Skim p' mid us rest) :
    ∃ vs, Skim p cs vs rest ∧ vs.map Token.content = (ts ++ us).map Token.content := by
  induction h with
  | nil => exact h'.exists_at _
  | blank hc _ ih =>
    obtain ⟨vs, hvs, hsame⟩ := ih h'
    exact ⟨vs, .blank hc hvs, hsame⟩
  | comment hcs hmore _ ih =>
    obtain ⟨vs, hvs, hsame⟩ := ih h'
    exact ⟨vs, .comment hcs hmore hvs, hsame⟩
  | token hq hk hfits hends _ ih =>
    obtain ⟨vs, hvs, hsame⟩ := ih h'
    refine ⟨_ :: vs, .token hq hk hfits hends hvs, ?_⟩
    rw [List.map_cons, List.cons_append, List.map_cons, hsame]

/-- Where reading stops it can go on. -/
theorem Skim.trans {p : Position} {cs mid rest : List Char} {ts us : List Token}
    (h : Skim p cs ts mid) (h' : ∀ front, cs = front ++ mid → Skim (p.advance front) mid us rest) :
    Skim p cs (ts ++ us) rest := by
  induction h with
  | nil => exact h' [] rfl
  | @blank p c cs ts mid hc _ ih =>
    exact .blank hc (ih fun front hcs => h' (c :: front) (by rw [hcs, List.cons_append]))
  | @comment p cs more ts mid hcs hmore _ ih =>
    refine .comment hcs hmore (ih fun front hfront => ?_)
    rw [← Position.advance_append]
    exact h' _ (by rw [hfront]; simp)
  | @token p q k cs ts mid hq hk hfits hends _ ih =>
    refine .token hq hk hfits hends (ih fun front hfront => ?_)
    rw [← Position.advance_append]
    exact h' _ (by rw [hfront, List.append_assoc])

/-! ## Putting in what is skipped -/

/-- Blanks, and comments each with the line feed that ends it. -/
inductive IsLayout : List Char → Prop where
  | nil : IsLayout []
  | blank {c : Char} {cs : List Char} (hc : Text.isBlank c = true) (h : IsLayout cs) :
    IsLayout (c :: cs)
  | comment {cs more : List Char} (hcs : '\n' ∉ cs) (h : IsLayout more) :
    IsLayout ('/' :: '/' :: (cs ++ '\n' :: more))

namespace IsLayout

theorem skim {w : List Char} (h : IsLayout w) (p : Position) (rest : List Char) :
    Skim p (w ++ rest) [] rest := by
  induction h generalizing p with
  | nil => exact .nil
  | blank hc _ ih => exact .blank hc (ih _)
  | @comment cs more hcs _ ih =>
    have hskim : Skim p ('/' :: '/' :: (cs ++ '\n' :: (more ++ rest))) [] rest :=
      .comment hcs (by simp) (.blank (by decide) (ih _))
    simpa using hskim

/-- After the first line feed, too, there are blanks and comments. -/
theorem exists_line {w : List Char} (h : IsLayout w) :
    ∃ line more, w = line ++ more ∧ '\n' ∉ line ∧ (∀ c ∈ more.head?, c = '\n') ∧
      IsLayout more := by
  induction h with
  | nil => exact ⟨[], [], rfl, List.not_mem_nil, nofun, .nil⟩
  | @blank c cs hc h ih =>
    by_cases hn : c = '\n'
    · exact ⟨[], c :: cs, rfl, List.not_mem_nil, by simpa using hn, .blank hc h⟩
    · obtain ⟨line, more, rfl, hline, hmore, hlayout⟩ := ih
      exact ⟨c :: line, more, rfl, by simp [hline, Ne.symm hn], hmore, hlayout⟩
  | @comment cs more hcs h _ =>
    exact ⟨'/' :: '/' :: cs, '\n' :: more, rfl, by simp [hcs], by simp, .blank (by decide) h⟩

/-- No token goes on with what is skipped. -/
theorem endsBefore {w : List Char} (h : IsLayout w) {q : Piece} (hq : q.Formed)
    {k : Token.Kind} (hk : q.kind? = some k) {rest : List Char} (hrest : q.EndsBefore rest) :
    q.EndsBefore (w ++ rest) := by
  intro first hfirst c hc
  cases h with
  | nil => exact hrest first hfirst c hc
  | blank hb _ =>
    cases hc
    exact hq.goesOn_eq_false hk hfirst (.inl hb)
  | comment _ _ =>
    cases hc
    exact hq.goesOn_eq_false hk hfirst (.inr rfl)

end IsLayout

theorem Skim.eq_nil {p : Position} {ts : List Token} {rest : List Char} (h : Skim p [] ts rest) :
    ts = [] := by
  generalize hcs : ([] : List Char) = cs at h
  cases h with
  | nil => rfl
  | blank | comment => cases hcs
  | token hq =>
    exact absurd (List.append_eq_nil_iff.mp hcs.symm).1 hq.text_ne_nil

/-- What is skipped can be put in where reading stops, before anything but a line feed. An open
comment at the end of the text takes in the first line of it. -/
theorem Skim.exists_insert {p : Position} {cs : List Char} {ts : List Token} {rest : List Char}
    (h : Skim p cs ts rest) (hrest : '\n' ∉ rest.head?) {w : List Char} (hw : IsLayout w) :
    ∃ a w', cs = a ++ rest ∧ IsLayout w' ∧ Skim p (a ++ (w ++ rest)) ts (w' ++ rest) := by
  induction h with
  | nil => exact ⟨[], w, rfl, hw, .nil⟩
  | @blank p c cs ts rest hc _ ih =>
    obtain ⟨a, w', rfl, hw', h⟩ := ih hrest
    exact ⟨c :: a, w', rfl, hw', .blank hc h⟩
  | @comment p cs more ts rest hcs hmore hm ih =>
    obtain ⟨a, w', rfl, hw', h⟩ := ih hrest
    cases a with
    | cons c a =>
      refine ⟨'/' :: '/' :: (cs ++ c :: a), w', by simp, hw', ?_⟩
      have hskim := Skim.comment hcs (by simpa using hmore) h
      simpa using hskim
    | nil =>
      cases rest with
      | cons c rest => exact absurd (hmore c rfl) (by simpa [eq_comm] using hrest)
      | nil =>
        obtain rfl := hm.eq_nil
        obtain ⟨line, more, rfl, hline, hmore, hlayout⟩ := hw.exists_line
        refine ⟨'/' :: '/' :: cs, more, by simp, hlayout, ?_⟩
        have hskim : Skim p ('/' :: '/' :: (cs ++ line ++ more)) [] more :=
          .comment (by simp [hcs, hline]) hmore .nil
        simpa using hskim
  | @token p q k cs ts rest hq hk hfits hends _ ih =>
    obtain ⟨a, w', rfl, hw', h⟩ := ih hrest
    refine ⟨q.text ++ a, w', by simp, hw', ?_⟩
    have hends' : q.EndsBefore (a ++ (w ++ rest)) := by
      cases a with
      | nil => exact hw.endsBefore hq hk hends
      | cons c a => exact hends
    have hskim := Skim.token hq hk hfits hends' h
    simpa using hskim

/-- Blanks and comments put in before a token, or before the end, leave the tokens as they are but
for their positions. -/
theorem exists_tokenize_insert {before after : String} {ts : List Token}
    (h : tokenize (before ++ after) = .ok ts) {t : Token} (ht : t ∈ ts)
    (hposition : t.position = Position.start.advance before.toList) {layout : String}
    (hlayout : IsLayout layout.toList) :
    ∃ us, tokenize (before ++ layout ++ after) = .ok us ∧
      us.map Token.content = ts.map Token.content := by
  obtain ⟨us, hus, rfl⟩ := tokenize_eq_ok.mp h
  rw [String.toList_append] at hus ht
  -- the ending token cuts the text at its end
  obtain ⟨b, us₁, us₂, hb, rfl, hus₁, hus₂, hnl⟩ : ∃ b us₁ us₂, b = after.toList ∧
      us = us₁ ++ us₂ ∧ Skim Position.start (before.toList ++ after.toList) us₁ b ∧
      (∃ p, Skim p b us₂ []) ∧ '\n' ∉ b.head? := by
    have hfront := List.prefix_append before.toList after.toList
    rcases List.mem_append.mp ht with ht | ht
    · obtain ⟨us₁, us₂, hsplit⟩ := List.append_of_mem ht
      obtain ⟨a, b, hcs, hpos, hus₁, hus₂, hnl⟩ := hus.exists_cut hsplit
      have ha : before.toList = a := Position.advance_injective hfront
        (hcs ▸ List.prefix_append a b) (hposition.symm.trans hpos)
      rw [ha] at hcs
      exact ⟨b, us₁, _, (List.append_cancel_left hcs).symm, hsplit, hus₁, ⟨_, hus₂⟩, hnl⟩
    · obtain rfl := List.mem_singleton.mp ht
      have ha : before.toList = before.toList ++ after.toList :=
        Position.advance_injective hfront (List.prefix_refl _) hposition.symm
      have hafter : after.toList = [] := List.append_right_eq_self.mp ha.symm
      exact ⟨[], us, [], hafter.symm, by simp, hus, ⟨.start, .nil⟩, nofun⟩
  subst hb
  obtain ⟨p, hus₂⟩ := hus₂
  obtain ⟨a, w, ha, hw, hskim⟩ := hus₁.exists_insert hnl hlayout
  obtain rfl := List.append_cancel_right ha
  obtain ⟨vs, hvs, hsame⟩ := hskim.exists_append (hw.skim p _)
  obtain ⟨vs', hvs', hsame'⟩ := hvs.exists_append hus₂
  refine ⟨_, tokenize_eq_ok.mpr ⟨vs', by simpa using hvs', rfl⟩, ?_⟩
  simp only [List.map_append, hsame', hsame, List.append_nil]
  rfl

end Looplet
