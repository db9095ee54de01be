import Looplet.Proofs.Token.Genuine

/-!
# Decimal numerals

A numeral is one or more digits, after one sign or none (`Numeral`); zeros in front of the digits do
not matter. Reading takes exactly the numerals whose value fits in a signed word of 64 bits, and
gives that value (`word?_eq_some_iff`):

    t.kind = .number → ((∃ v, t.value? = some v ∧ v.toInt = n) ↔
      Numeral t.text.toList n ∧ -2 ^ 63 ≤ n ∧ n ≤ 2 ^ 63 - 1)            (value?_iff)

The numbers of a text have no sign, and all of them have a value (`exists_value_of_tokenize`).
-/

namespace Looplet

/-- Decimal numerals with the integers that they write. -/
inductive Numeral : List Char → Int → Prop where
  | bare {ds : List Char} (hne : ds ≠ []) (h : ∀ c ∈ ds, c.isDigit = true) :
    Numeral ds (Piece.decimal ds)
  | plus {ds : List Char} (hne : ds ≠ []) (h : ∀ c ∈ ds, c.isDigit = true) :
    Numeral ('+' :: ds) (Piece.decimal ds)
  | minus {ds : List Char} (hne : ds ≠ []) (h : ∀ c ∈ ds, c.isDigit = true) :
    Numeral ('-' :: ds) (-(Piece.decimal ds : Int))

/-! ## Digits -/

theorem map_natural?_eq_some {f : Nat → Int} {ds : List Char} {n : Int} :
    (Text.natural? ds).map f = some n ↔
      (ds ≠ [] ∧ ∀ c ∈ ds, c.isDigit = true) ∧ n = f (Piece.decimal ds) := by
  simp only [Text.natural?, List.all_eq_true, digitsValue_eq_decimal]
  split
  · next h => rw [Option.map_some, Option.some_inj, eq_comm, and_iff_right h]
  · next h => exact iff_of_false (Option.some_ne_none n).symm fun hn => h hn.1

/-- Zeros in front of digits do not count. -/
theorem decimal_zeros_append (k : Nat) (ds : List Char) :
    Piece.decimal (List.replicate k '0' ++ ds) = Piece.decimal ds := by
  have hzero : Text.digitValue '0' = 0 := rfl
  rw [Piece.decimal, Piece.decimal, List.reverse_append, List.reverse_replicate, List.map_append,
    List.map_replicate, hzero, Nat.ofDigits_append_replicate_zero]

/-! ## Reading -/

theorem signed?_eq_some {cs : List Char} {n : Int} :
    Text.signed? cs = some n ↔ Numeral cs n := by
  constructor
  · intro h
    unfold Text.signed? at h
    split at h
    · obtain ⟨⟨hne, hdigits⟩, rfl⟩ := map_natural?_eq_some.mp h
      exact .plus hne hdigits
    · obtain ⟨⟨hne, hdigits⟩, rfl⟩ := map_natural?_eq_some.mp h
      exact .minus hne hdigits
    · obtain ⟨⟨hne, hdigits⟩, rfl⟩ := map_natural?_eq_some.mp h
      exact .bare hne hdigits
  · intro h
    cases h with
    | bare hne h => exact signed?_of_digits hne h
    | plus hne h => exact map_natural?_eq_some.mpr ⟨⟨hne, h⟩, rfl⟩
    | minus hne h => exact map_natural?_eq_some.mpr ⟨⟨hne, h⟩, rfl⟩

theorem fitsWord_iff {n : Int} :
    Text.fitsWord n = true ↔ -2 ^ 63 ≤ n ∧ n ≤ 2 ^ 63 - 1 := by
  simp [Text.fitsWord]

theorem fitsWord_toInt (v : Int64) : Text.fitsWord v.toInt = true :=
  fitsWord_iff.mpr ⟨v.le_toInt, Int.le_sub_one_of_lt v.toInt_lt⟩

/-- A word is read off exactly the numerals that write it. -/
theorem word?_eq_some_iff {cs : List Char} {v : Int64} :
    Text.word? cs = some v ↔ Numeral cs v.toInt := by
  rw [← signed?_eq_some, Text.word?]
  cases hs : Text.signed? cs with
  | none => simp
  | some n =>
    simp only [Option.some.injEq]
    by_cases hfits : Text.fitsWord n = true
    · rw [if_pos hfits, Option.some_inj, ← Int64.toInt_inj, Text.toInt_ofInt_of_fitsWord hfits]
    · rw [if_neg hfits]
      refine iff_of_false (Option.some_ne_none v).symm ?_
      rintro rfl
      exact hfits (fitsWord_toInt v)

/-- The decimal text of a word is a numeral that writes it. -/
theorem numeral_ofWord (v : Int64) : Numeral (Text.ofWord v).toList v.toInt := by
  rw [Text.ofWord]
  cases v.toInt with
  | ofNat n =>
    have h := Numeral.bare (repr_ne_nil (n := n)) isDigit_of_mem_repr
    rwa [decimal_repr] at h
  | negSucc n =>
    have h := Numeral.minus (repr_ne_nil (n := n + 1)) isDigit_of_mem_repr
    rw [decimal_repr] at h
    rw [Int.repr, String.toList_append]
    exact h

/-! ## Tokens -/

namespace Token

variable {t : Token}

/-- A number has a value exactly if its text is a numeral that writes a signed word of 64 bits, and
then that is its value. -/
theorem value?_iff (ht : t.kind = .number) {n : Int} :
    (∃ v, t.value? = some v ∧ v.toInt = n) ↔
      Numeral t.text.toList n ∧ -2 ^ 63 ≤ n ∧ n ≤ 2 ^ 63 - 1 := by
  simp only [value?, if_pos ht, word?_eq_some_iff]
  constructor
  · rintro ⟨v, h, rfl⟩
    exact ⟨h, fitsWord_iff.mp (fitsWord_toInt v)⟩
  · rintro ⟨h, hfits⟩
    have hn := Text.toInt_ofInt_of_fitsWord (fitsWord_iff.mpr hfits)
    exact ⟨Int64.ofInt n, by rwa [hn], hn⟩

/-- A number that a text can hold has a value. -/
theorem Genuine.exists_value (h : t.Genuine) (ht : t.kind = .number) :
    ∃ v, t.value? = some v ∧ v.toInt = Piece.decimal t.text.toList := by
  obtain ⟨hne, hdigits⟩ := h.digits ht
  have hfits : Piece.decimal t.text.toList ≤ 9223372036854775807 := h.2 (congrArg some ht)
  exact (value?_iff ht).mpr ⟨.bare hne hdigits, by omega, by omega⟩

end Token

/-- The numbers of a text are written in digits alone. They have the value of their digits, which is
not negative. -/
theorem exists_value_of_tokenize {src : String} {ts : List Token} (h : tokenize src = .ok ts) :
    ∀ t ∈ ts, t.kind = .number → ∃ v, t.value? = some v ∧ 0 ≤ v.toInt ∧ v.toInt ≤ 2 ^ 63 - 1 ∧
      (∀ c ∈ t.text.toList, c.isDigit = true) ∧ v.toInt = Piece.decimal t.text.toList := by
  intro t ht hk
  obtain ⟨body, e, rfl, -, he⟩ := exists_ending_of_tokenize h
  rcases List.mem_append.mp ht with ht | ht
  · have hgenuine := genuine_of_tokenize h t ht
    obtain ⟨v, hv, hn⟩ := hgenuine.exists_value hk
    exact ⟨v, hv, hgenuine.value_nonneg hk hv, Int.le_sub_one_of_lt v.toInt_lt,
      (hgenuine.digits hk).2, hn⟩
  · rw [List.mem_singleton.mp ht, he] at hk
    cases hk

end Looplet
