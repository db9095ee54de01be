import Looplet.Proofs.Token.Skim

/-!
# Tokens that a text can hold

A token of a text has the text of a piece of its kind (`genuine_of_tokenize`): a name is a word of
letters, underscores and digits that is not reserved, and a number has a value that is not negative.
Any tokens like that are those of some text, for example of their texts with blanks between them
(`exists_tokenize_spaced`).
-/

namespace Looplet

/-! ## Names -/

/-- A letter or an underscore. -/
def IsLetter (c : Char) : Prop :=
  'A' ≤ c ∧ c ≤ 'Z' ∨ 'a' ≤ c ∧ c ≤ 'z' ∨ c = '_'

/-- The words that are not names. -/
def reserved : List String :=
  ["func", "if", "else", "while", "break", "continue"]

/-- A word that may name a function, a variable or a loop. -/
structure IsName (x : String) : Prop where
  word : ∃ c cs, x.toList = c :: cs ∧ IsLetter c ∧ ∀ d ∈ cs, IsLetter d ∨ '0' ≤ d ∧ d ≤ '9'
  free : x ∉ reserved

theorem isWordStart_iff_isLetter {c : Char} : isWordStart c = true ↔ IsLetter c := by
  have hstart : isWordStart c =
      (decide (65 ≤ c.val ∧ c.val ≤ 90) || (97 ≤ c.val && c.val ≤ 122) || c == '_') := rfl
  rw [hstart]
  simp [IsLetter, Char.le_def, or_assoc]

theorem isWordPart_iff {c : Char} : isWordPart c = true ↔ IsLetter c ∨ '0' ≤ c ∧ c ≤ '9' := by
  rw [isWordPart, Bool.or_eq_true, isWordStart_iff_isLetter]
  simp [Char.isDigit, Char.le_def]

theorem mem_reserved {x : String} : x ∈ reserved ↔ ∃ k ∈ Token.keywords, k.spelling? = some x := by
  simp [reserved, Token.keywords, Token.Kind.spelling?, eq_comm]

theorem isName_iff {x : String} : IsName x ↔ (⟨some .name, x.toList⟩ : Piece).Formed := by
  constructor
  · rintro ⟨⟨c, cs, hx, hc, hcs⟩, hfree⟩
    rw [hx]
    refine .name (isWordStart_iff_isLetter.mpr hc) (fun d hd => isWordPart_iff.mpr (hcs d hd)) ?_
    intro k hk hs
    rw [← hx, String.ofList_toList] at hs
    exact hfree (mem_reserved.mpr ⟨k, hk, hs⟩)
  · intro h
    generalize hcs : x.toList = cs at h
    cases h with
    | @name c cs hc hword hk =>
      refine ⟨⟨c, cs, hcs, isWordStart_iff_isLetter.mp hc,
        fun d hd => isWordPart_iff.mp (hword d hd)⟩, fun hmem => ?_⟩
      obtain ⟨k, hmem, hs⟩ := mem_reserved.mp hmem
      exact hk k hmem (by rw [hs, ← hcs, String.ofList_toList])
    | keyword hmem => exact absurd hmem (by decide)
    | operator hmem => exact absurd hmem (by decide)

/-! ## Tokens -/

/-- The token has the text of a piece of its kind, and a value that fits if it is a number. -/
def Token.Genuine (t : Token) : Prop :=
  (⟨some t.kind, t.text.toList⟩ : Piece).Formed ∧ (⟨some t.kind, t.text.toList⟩ : Piece).Fits

theorem Munch.fits {cs rest : List Char} {ps : List Piece} (h : Munch cs ps rest) :
    ∀ p ∈ ps, p.Fits := by
  induction h with
  | nil => exact List.forall_mem_nil _
  | cons _ hfits _ ih => exact List.forall_mem_cons.mpr ⟨hfits, ih⟩

/-- The tokens of a text, the ending one apart, are genuine. -/
theorem genuine_of_tokenize {src : String} {ts : List Token} {e : Token}
    (h : tokenize src = .ok (ts ++ [e])) : ∀ t ∈ ts, t.Genuine := by
  obtain ⟨ps, hm, hts⟩ := exists_munch_of_tokenize h
  obtain ⟨rfl, -⟩ := List.append_inj' hts rfl
  intro t ht
  obtain ⟨ps₁, p, ps₂, rfl, hk, htext, -⟩ := mem_tokensAfter ht
  have hpiece : (⟨some t.kind, t.text.toList⟩ : Piece) = p := by
    rw [htext, String.toList_ofList, ← hk]
  rw [Token.Genuine, hpiece]
  exact ⟨hm.formed p (by simp), hm.fits p (by simp)⟩

namespace Token.Genuine

variable {t : Token}

theorem isName (h : t.Genuine) (ht : t.kind = .name) : IsName t.text := by
  rw [isName_iff, ← ht]
  exact h.1

theorem digits (h : t.Genuine) (ht : t.kind = .number) :
    t.text.toList ≠ [] ∧ ∀ c ∈ t.text.toList, c.isDigit = true := by
  have hformed := h.1
  rw [ht] at hformed
  cases hformed with
  | number hne hdigits => exact ⟨hne, hdigits⟩
  | keyword hmem => exact absurd hmem (by decide)
  | operator hmem => exact absurd hmem (by decide)

/-- The value of a number is not negative. -/
theorem value_nonneg (h : t.Genuine) (ht : t.kind = .number) {v : Int64}
    (hv : t.value? = some v) : 0 ≤ v.toInt := by
  obtain ⟨hne, hdigits⟩ := h.digits ht
  rw [Token.value?, if_pos ht, word?_eq_some hne hdigits] at hv
  rw [hv.2]
  exact Int.natCast_nonneg _

theorem of_name {x : String} (hx : IsName x) (p : Position) : Genuine ⟨.name, x, p⟩ :=
  ⟨isName_iff.mp hx, Piece.fits_of_ne (by simp)⟩

/-- A keyword or an operator that is written as its kind is. -/
theorem of_spelling {k : Kind} {s : String} (hs : k.spelling? = some s) (p : Position) :
    Genuine ⟨k, s, p⟩ := by
  have hkind : ∀ k : Kind, k.spelling?.isSome = true →
      k ≠ .number ∧ (k ∈ Token.keywords ∨ k ∈ Token.operators) := by
    intro k
    cases k <;> decide
  obtain ⟨hnumber, hmem⟩ := hkind k (by rw [hs]; rfl)
  have hs' : k.spelling? = some (String.ofList s.toList) := by rw [hs, String.ofList_toList]
  refine ⟨?_, Piece.fits_of_ne (by simpa using hnumber)⟩
  exact hmem.elim (fun hk => .keyword hk hs') fun hk => .operator hk hs'

end Token.Genuine

/-- The digits of a number, read again. -/
theorem decimal_repr (n : Nat) : Piece.decimal (Nat.repr n).toList = n := by
  rw [← digitsValue_eq_decimal, Nat.repr_eq_ofList_toDigits, String.toList_ofList]
  exact Nat.ofDigitChars_toDigits (by decide) (by decide)

theorem isDigit_of_mem_repr {n : Nat} : ∀ c ∈ (Nat.repr n).toList, c.isDigit = true := by
  rw [Nat.repr_eq_ofList_toDigits, String.toList_ofList]
  exact fun c hc => Nat.isDigit_of_mem_toDigits (by decide) (by decide) hc

theorem repr_ne_nil {n : Nat} : (Nat.repr n).toList ≠ [] := by
  rw [Nat.repr_eq_ofList_toDigits, String.toList_ofList]
  exact Nat.toDigits_ne_nil

/-- A number in decimal. -/
theorem Token.Genuine.of_nat {n : Nat} (hn : n ≤ 9223372036854775807) (p : Position) :
    Genuine ⟨.number, Nat.repr n, p⟩ :=
  ⟨.number repr_ne_nil isDigit_of_mem_repr, fun _ => by rwa [decimal_repr]⟩

/-! ## Texts -/

/-- The texts of tokens, with a blank after each of them. -/
def spaced (ts : List Token) : List Char :=
  ts.flatMap fun t => t.text.toList ++ [' ']

theorem exists_skim_spaced {ts : List Token} (h : ∀ t ∈ ts, t.Genuine) (p : Position) :
    ∃ us, Skim p (spaced ts) us [] ∧ us.map Token.content = ts.map Token.content := by
  induction ts generalizing p with
  | nil => exact ⟨[], .nil, rfl⟩
  | cons t ts ih =>
    rw [List.forall_mem_cons] at h
    obtain ⟨us, hus, hsame⟩ := ih h.2 ((p.advance t.text.toList).step ' ')
    have hblank : Text.isBlank ' ' = true := by decide
    have hends : (⟨some t.kind, t.text.toList⟩ : Piece).EndsBefore (' ' :: spaced ts) := by
      rintro first hfirst _ ⟨⟩
      exact h.1.1.goesOn_eq_false rfl hfirst (.inl hblank)
    have hskim := Skim.token h.1.1 rfl h.1.2 hends (.blank hblank hus)
    refine ⟨_, by simpa [spaced] using hskim, ?_⟩
    rw [List.map_cons, List.map_cons, hsame]
    simp [Token.content]

/-- Genuine tokens are the tokens of a text, up to positions. -/
theorem exists_tokenize_spaced {ts : List Token} (h : ∀ t ∈ ts, t.Genuine) :
    ∃ us, tokenize (String.ofList (spaced ts)) = .ok us ∧
      us.map Token.content = (ts ++ [Token.endingAt .start]).map Token.content := by
  obtain ⟨us, hus, hsame⟩ := exists_skim_spaced h .start
  refine ⟨_, tokenize_eq_ok.mpr ⟨us, by rwa [String.toList_ofList], rfl⟩, ?_⟩
  rw [List.map_append, hsame, List.map_append]
  rfl

end Looplet
