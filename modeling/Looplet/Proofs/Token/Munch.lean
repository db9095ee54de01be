import Looplet.Proofs.Token.Piece

/-!
# Texts in pieces

A text is taken apart from left to right into pieces, each the longest one at its place, as far as
that goes (`Munch`). It has tokens exactly if that goes to its end, and the tokens are the pieces
that are not skipped; otherwise the fault is where the last piece ends (`tokenize_munch`).

    items ⟨cs, start.advance before, false⟩
      = (tokensAfter before ps).map .ok ++ items ⟨rest, start.advance (before ++ textOf ps), false⟩
-/

namespace Looplet

/-- The text `cs` is made of the pieces `ps`, each the longest one at its place, none of them a
number that does not fit, and of a rest. -/
inductive Munch : List Char → List Piece → List Char → Prop where
  | nil {cs : List Char} : Munch cs [] cs
  | cons {p : Piece} {cs : List Char} {ps : List Piece} {rest : List Char}
    (hp : p.IsLongest (p.text ++ cs)) (hfits : p.Fits) (h : Munch cs ps rest) :
    Munch (p.text ++ cs) (p :: ps) rest

/-- The text of pieces. -/
def textOf (ps : List Piece) : List Char :=
  ps.flatMap Piece.text

@[simp] theorem textOf_nil : textOf [] = [] := rfl

@[simp] theorem textOf_cons (p : Piece) (ps : List Piece) :
    textOf (p :: ps) = p.text ++ textOf ps :=
  List.flatMap_cons

/-- The tokens among pieces that stand after the text `before`. -/
def tokensAfter (before : List Char) : List Piece → List Token
  | [] => []
  | p :: ps =>
    match p.kind? with
    | none => tokensAfter (before ++ p.text) ps
    | some k =>
      ⟨k, String.ofList p.text, Position.start.advance before⟩ :: tokensAfter (before ++ p.text) ps

/-- Why a text that is not empty cannot be taken apart further. -/
inductive Stops : List Char → Lexer.Fault → Prop where
  | unrecognized {c : Char} {cs : List Char} (h : ∀ p : Piece, p.Formed → ¬p.text <+: c :: cs) :
    Stops (c :: cs) (.unrecognized c)
  | oversized {p : Piece} {cs : List Char} (hp : p.IsLongest cs) (hfits : ¬p.Fits) :
    Stops cs (.oversized (String.ofList p.text))

theorem Piece.Formed.text_ne_nil {p : Piece} (h : p.Formed) : p.text ≠ [] := by
  intro htext
  obtain ⟨l, hl, -⟩ := h.first? (htext ▸ List.prefix_refl _ : p.text <+: [])
  cases hl

/-- Where reading stops there is no piece to go on with. -/
theorem not_fits_of_stop {rest : List Char} (h : rest = [] ∨ ∃ fault, Stops rest fault)
    {p : Piece} (hp : p.IsLongest rest) : ¬p.Fits := by
  rcases h with rfl | ⟨fault, h⟩
  · exact absurd (List.prefix_nil.mp hp.front) hp.formed.text_ne_nil
  · cases h with
    | unrecognized h => exact absurd hp.front (h p hp.formed)
    | oversized hq hfits => exact hp.unique hq ▸ hfits

namespace Munch

variable {cs rest : List Char} {ps : List Piece}

theorem textOf_append (h : Munch cs ps rest) : textOf ps ++ rest = cs := by
  induction h with
  | nil => rfl
  | cons _ _ _ ih => rw [textOf_cons, List.append_assoc, ih]

/-- No way of taking a text apart gets past the place where it stops. -/
theorem length_le (h : Munch cs ps rest) (hstop : rest = [] ∨ ∃ fault, Stops rest fault)
    {ps' : List Piece} {rest' : List Char} (h' : Munch cs ps' rest') :
    rest.length ≤ rest'.length := by
  induction h generalizing ps' with
  | nil =>
    cases h' with
    | nil => exact Nat.le_refl _
    | cons hp hfits _ => exact absurd hfits (not_fits_of_stop hstop hp)
  | @cons p cs ps rest hp hfits h ih =>
    generalize hwhole : p.text ++ cs = whole at hp h'
    cases h' with
    | nil =>
      rw [← hwhole, ← h.textOf_append, List.length_append, List.length_append]
      omega
    | @cons q cs' ps' rest' hq _ h' =>
      obtain rfl := hp.unique hq
      obtain rfl := List.append_cancel_left hwhole
      exact ih hstop h'

end Munch

/-- Every text can be taken apart up to its end, or up to where it stops. -/
theorem exists_munch (cs : List Char) :
    ∃ ps rest, Munch cs ps rest ∧ (rest = [] ∨ ∃ fault, Stops rest fault) := by
  induction hn : cs.length using Nat.strong_induction_on generalizing cs with
  | _ n ih =>
    cases hf : Lexeme.first? cs with
    | none =>
      cases cs with
      | nil => exact ⟨[], [], .nil, .inl rfl⟩
      | cons c cs =>
        exact ⟨[], c :: cs, .nil, .inr ⟨_, .unrecognized (Piece.first?_eq_none.mp hf)⟩⟩
    | some l =>
      obtain ⟨p, hp, htext, -⟩ := Piece.isLongest_of_first? hf
      by_cases hfits : p.Fits
      · obtain ⟨after, rfl⟩ := hp.front
        have hlt : after.length < n := by
          have := List.length_pos_of_ne_nil hp.formed.text_ne_nil
          rw [← hn, List.length_append]
          omega
        obtain ⟨ps, rest, h, hstop⟩ := ih after.length hlt after rfl
        exact ⟨p :: ps, rest, .cons hp hfits h, hstop⟩
      · exact ⟨[], cs, .nil, .inr ⟨_, .oversized hp hfits⟩⟩

/-! ## Items -/

namespace Lexer

theorem items_done (cs : List Char) (p : Position) : items ⟨cs, p, true⟩ = [] := by
  rw [items]
  rfl

theorem items_eq_scan (cs : List Char) (p : Position) :
    items ⟨cs, p, false⟩ = (scan cs p).1 :: items (scan cs p).2 := by
  rw [items]
  rfl

theorem items_nil (p : Position) : items ⟨[], p, false⟩ = [.ok (Token.endingAt p)] := by
  rw [items_eq_scan, scan]
  simp only [items_done]

/-- A scan goes by what the first piece is read as. -/
theorem scan_of_first? {cs : List Char} {l : Lexeme} (h : Lexeme.first? cs = some l)
    (p : Position) :
    scan cs p = match l.kind? with
      | .error fault => (.error ⟨p, fault⟩, ⟨cs, p, true⟩)
      | .ok none => scan (cs.drop l.text.length) (p.advance l.text)
      | .ok (some k) => (.ok ⟨k, String.ofList l.text, p⟩,
          ⟨cs.drop l.text.length, p.advance l.text, false⟩) := by
  cases cs with
  | nil => cases h
  | cons c cs =>
    rw [scan]
    split
    · next hnone =>
      rw [h] at hnone
      cases hnone
    · next l' hl' =>
      rw [h] at hl'
      cases hl'
      rfl

/-- A scan fails at a character that no piece starts with. -/
theorem scan_of_first?_none {c : Char} {cs : List Char} (h : Lexeme.first? (c :: cs) = none)
    (p : Position) : scan (c :: cs) p = (.error ⟨p, .unrecognized c⟩, ⟨c :: cs, p, true⟩) := by
  rw [scan]
  split
  · rfl
  · next l hl =>
    rw [h] at hl
    cases hl

theorem items_stop {cs : List Char} {fault : Fault} (h : Stops cs fault) (p : Position) :
    items ⟨cs, p, false⟩ = [.error ⟨p, fault⟩] := by
  rw [items_eq_scan]
  cases h with
  | @unrecognized c cs h =>
    rw [scan_of_first?_none (Piece.first?_eq_none.mpr h), items_done]
  | @oversized q cs hq hfits =>
    obtain ⟨l, hl, htext, hread⟩ := hq.first?
    rw [Piece.reading, if_neg hfits] at hread
    rw [scan_of_first? hl, hread]
    simp only [items_done]

/-- A piece that is not skipped is the next item. -/
theorem items_piece {q : Piece} {cs : List Char} (hq : q.IsLongest (q.text ++ cs))
    (hfits : q.Fits) (p : Position) :
    items ⟨q.text ++ cs, p, false⟩
      = (q.kind?.map fun k => .ok ⟨k, String.ofList q.text, p⟩).toList
        ++ items ⟨cs, p.advance q.text, false⟩ := by
  obtain ⟨l, hl, htext, hread⟩ := hq.first?
  rw [Piece.reading, if_pos hfits] at hread
  rw [items_eq_scan, scan_of_first? hl, hread, htext, List.drop_left]
  cases q.kind? with
  | none => rw [← items_eq_scan]; rfl
  | some k => rfl

/-- Taking a text apart gives its items up to there. -/
theorem items_munch {cs rest : List Char} {ps : List Piece} (h : Munch cs ps rest)
    (before : List Char) :
    items ⟨cs, Position.start.advance before, false⟩
      = (tokensAfter before ps).map .ok
        ++ items ⟨rest, Position.start.advance (before ++ textOf ps), false⟩ := by
  induction h generalizing before with
  | nil => simp [tokensAfter]
  | @cons q cs ps rest hq hfits _ ih =>
    rw [items_piece hq hfits, ← Position.advance_append, ih, tokensAfter, textOf_cons,
      List.append_assoc]
    cases q.kind? <;> simp

theorem collect_append (ts : List Token) (is : List (Except Error Token)) :
    collect (ts.map .ok ++ is) = (collect is).map (ts ++ ·) := by
  induction ts with
  | nil => cases h : collect is <;> simp [h, Except.map]
  | cons t ts ih =>
    rw [List.map_cons, List.cons_append, collect, ih]
    cases collect is <;> rfl

end Lexer

/-! ## Tokens -/

variable {src : String} {ps : List Piece} {rest : List Char}

theorem tokenize_of_munch (h : Munch src.toList ps rest) :
    tokenize src = (Lexer.collect (Lexer.items
      ⟨rest, Position.start.advance (textOf ps), false⟩)).map (tokensAfter [] ps ++ ·) := by
  have hitems := Lexer.items_munch h []
  rw [List.nil_append] at hitems
  rw [← Lexer.collect_append, ← hitems]
  rfl

theorem tokenize_of_munch_nil (h : Munch src.toList ps []) :
    tokenize src
      = .ok (tokensAfter [] ps ++ [Token.endingAt (Position.start.advance src.toList)]) := by
  have htext := h.textOf_append
  rw [List.append_nil] at htext
  rw [tokenize_of_munch h, Lexer.items_nil, htext]
  rfl

theorem tokenize_of_stops {fault : Lexer.Fault} (h : Munch src.toList ps rest)
    (hs : Stops rest fault) :
    tokenize src = .error ⟨Position.start.advance (textOf ps), fault⟩ := by
  rw [tokenize_of_munch h, Lexer.items_stop hs]
  rfl

/-- A text has tokens exactly if it can be taken apart into pieces up to its end. The tokens are
then the pieces that are not skipped and an ending token, each at the position that the text before
it leads to. If it cannot, the error is where the longest part that can be taken apart ends, and it
says what stops there: a character that begins no piece, or a number that does not fit. -/
theorem tokenize_munch (src : String) :
    (∀ ts, tokenize src = .ok ts ↔ ∃ ps, Munch src.toList ps [] ∧ textOf ps = src.toList ∧
      ts = tokensAfter [] ps ++ [Token.endingAt (Position.start.advance src.toList)]) ∧
    ∀ e, tokenize src = .error e ↔ ∃ ps rest, Munch src.toList ps rest ∧
      textOf ps ++ rest = src.toList ∧
      (∀ ps' rest', Munch src.toList ps' rest' → rest.length ≤ rest'.length) ∧
      e.position = Position.start.advance (textOf ps) ∧ Stops rest e.fault := by
  obtain ⟨ps, rest, h, hstop⟩ := exists_munch src.toList
  refine ⟨fun ts => ⟨fun hts => ?_, ?_⟩, fun e => ⟨fun he => ?_, ?_⟩⟩
  · rcases hstop with rfl | ⟨fault, hs⟩
    · rw [tokenize_of_munch_nil h] at hts
      have htext := h.textOf_append
      rw [List.append_nil] at htext
      exact ⟨ps, h, htext, (Except.ok.inj hts).symm⟩
    · rw [tokenize_of_stops h hs] at hts
      cases hts
  · rintro ⟨ps, h, -, rfl⟩
    exact tokenize_of_munch_nil h
  · rcases hstop with rfl | ⟨fault, hs⟩
    · rw [tokenize_of_munch_nil h] at he
      cases he
    · rw [tokenize_of_stops h hs] at he
      cases he
      exact ⟨ps, rest, h, h.textOf_append, fun _ _ h' => h.length_le (.inr ⟨_, hs⟩) h', rfl, hs⟩
  · rintro ⟨ps, rest, h, -, -, hposition, hs⟩
    obtain ⟨position, fault⟩ := e
    obtain rfl : position = _ := hposition
    exact tokenize_of_stops h hs

end Looplet
