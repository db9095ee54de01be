import Looplet.Token.Lexer
import Mathlib.Data.List.Infix
import Mathlib.Data.List.TakeWhile
import Mathlib.Data.Nat.Digits.Defs

/-!
# Pieces of a text

What pieces a text may have is said on its own (`Piece.Formed`): blanks, comments, numbers,
keywords, names and operators. The lexer tries the alternatives of a pattern in order
(`first?_cons`), and a text shows by its first character which of them fits, if any. So what the
lexer takes is the longest of all pieces at the front of a text, with its kind
(`isLongest_of_first?`), and it takes none only if there is none (`first?_eq_none`).
-/

namespace Looplet

/-- A piece of a text: a token of some kind, or, without a kind, something to skip. -/
structure Piece where
  kind? : Option Token.Kind
  text : List Char

namespace Piece

/-- The number that decimal digits write. -/
def decimal (ds : List Char) : Nat :=
  Nat.ofDigits 10 (ds.reverse.map Text.digitValue)

/-- The pieces that a text may have, each with its kind. -/
inductive Formed : Piece → Prop where
  | blanks {cs : List Char} (hne : cs ≠ []) (h : ∀ c ∈ cs, Text.isBlank c = true) :
    Formed ⟨none, cs⟩
  | comment {cs : List Char} (h : '\n' ∉ cs) : Formed ⟨none, '/' :: '/' :: cs⟩
  | number {cs : List Char} (hne : cs ≠ []) (h : ∀ c ∈ cs, c.isDigit = true) :
    Formed ⟨some .number, cs⟩
  | keyword {k : Token.Kind} {cs : List Char} (hk : k ∈ Token.keywords)
    (hs : k.spelling? = some (String.ofList cs)) : Formed ⟨some k, cs⟩
  | name {c : Char} {cs : List Char} (hc : isWordStart c = true)
    (h : ∀ d ∈ cs, isWordPart d = true)
    (hk : ∀ k ∈ Token.keywords, k.spelling? ≠ some (String.ofList (c :: cs))) :
    Formed ⟨some .name, c :: cs⟩
  | operator {k : Token.Kind} {cs : List Char} (hk : k ∈ Token.operators)
    (hs : k.spelling? = some (String.ofList cs)) : Formed ⟨some k, cs⟩

/-- A number fits in a signed word of 64 bits. -/
def Fits (p : Piece) : Prop :=
  p.kind? = some .number → decimal p.text ≤ 9223372036854775807

instance (p : Piece) : Decidable p.Fits :=
  inferInstanceAs (Decidable (_ → _))

/-- No piece at the front of the text is longer. -/
structure IsLongest (p : Piece) (cs : List Char) : Prop where
  formed : p.Formed
  front : p.text <+: cs
  le : ∀ q : Piece, q.Formed → q.text <+: cs → q.text.length ≤ p.text.length

/-- What a piece is read as: its kind, or a fault if it is a number that does not fit. -/
def reading (p : Piece) : Except Lexer.Fault (Option Token.Kind) :=
  if p.Fits then .ok p.kind? else .error (.oversized (String.ofList p.text))

theorem kind?_eq_of_reading {p q : Piece} (h : p.reading = q.reading) : p.kind? = q.kind? := by
  unfold reading at h
  have hnumber : ∀ r : Piece, ¬r.Fits → r.kind? = some .number := fun r hr =>
    Classical.byContradiction fun hk => hr fun h => absurd h hk
  by_cases hp : p.Fits <;> by_cases hq : q.Fits
  · rw [if_pos hp, if_pos hq] at h
    exact Except.ok.inj h
  · rw [if_pos hp, if_neg hq] at h
    cases h
  · rw [if_neg hp, if_pos hq] at h
    cases h
  · rw [hnumber p hp, hnumber q hq]

end Piece

/-! ## Numbers -/

theorem digitsValue_eq_decimal (ds : List Char) : Text.digitsValue ds = Piece.decimal ds := by
  rw [Piece.decimal, Nat.ofDigits_eq_foldr, List.map_reverse, List.foldr_reverse, List.foldl_map,
    Text.digitsValue]
  refine List.foldl_ext _ _ 0 fun n c _ => ?_
  simp only [Nat.cast_id]
  omega

theorem signed?_of_digits {ds : List Char} (hne : ds ≠ []) (h : ∀ c ∈ ds, c.isDigit = true) :
    Text.signed? ds = some (Int.ofNat (Piece.decimal ds)) := by
  obtain ⟨d, ds, rfl⟩ := List.exists_cons_of_ne_nil hne
  have hd := h d (List.mem_cons_self ..)
  have hplus : d ≠ '+' := by
    rintro rfl
    exact absurd hd (by decide)
  have hminus : d ≠ '-' := by
    rintro rfl
    exact absurd hd (by decide)
  have hall : (d :: ds).all Char.isDigit = true := List.all_eq_true.mpr h
  simp [Text.signed?, hplus, hminus, Text.natural?, hall, digitsValue_eq_decimal]

/-- Digits write a word if their value fits, and then they write that value. -/
theorem word?_eq_some {ds : List Char} (hne : ds ≠ []) (h : ∀ c ∈ ds, c.isDigit = true)
    {v : Int64} :
    Text.word? ds = some v ↔
      Piece.decimal ds ≤ 9223372036854775807 ∧ v.toInt = Int.ofNat (Piece.decimal ds) := by
  have hfits : Text.fitsWord (Int.ofNat (Piece.decimal ds)) = true ↔
      Piece.decimal ds ≤ 9223372036854775807 := by
    simp only [Text.fitsWord, Int.ofNat_eq_natCast, Bool.and_eq_true, decide_eq_true_eq]
    omega
  simp only [Text.word?, signed?_of_digits hne h]
  by_cases hf : Text.fitsWord (Int.ofNat (Piece.decimal ds)) = true
  · rw [if_pos hf, Option.some_inj, ← hfits, ← Int64.toInt_inj, Text.toInt_ofInt_of_fitsWord hf,
      eq_comm]
    exact (and_iff_right hf).symm
  · rw [if_neg hf, ← hfits]
    exact iff_of_false (by simp) fun h => hf h.1

theorem isSome_word? {ds : List Char} (hne : ds ≠ []) (h : ∀ c ∈ ds, c.isDigit = true) :
    (Text.word? ds).isSome = true ↔ Piece.decimal ds ≤ 9223372036854775807 := by
  rw [Option.isSome_iff_exists]
  constructor
  · rintro ⟨v, hv⟩
    exact ((word?_eq_some hne h).mp hv).1
  · intro hle
    refine ⟨Int64.ofInt (Int.ofNat (Piece.decimal ds)), (word?_eq_some hne h).mpr ⟨hle, ?_⟩⟩
    rw [Int64.toInt_ofInt_of_le]
    · simp only [Int.ofNat_eq_natCast]
      omega
    · simp only [Int.ofNat_eq_natCast]
      omega

/-! ## First characters -/

theorem isBlank_of_visible {c : Char} (h : 33 ≤ c.toNat ∧ c.toNat ≤ 126) :
    Text.isBlank c = false := by
  simp only [Text.isBlank, Text.inRanges, Text.blankRanges, List.any_cons, List.any_nil,
    Bool.or_eq_false_iff, Bool.and_eq_false_iff, decide_eq_false_iff_not, not_le,
    and_true]
  omega

theorem isDigit_iff {c : Char} : c.isDigit = true ↔ 48 ≤ c.toNat ∧ c.toNat ≤ 57 := by
  simp [Char.isDigit, UInt32.le_iff_toNat_le]

theorem isWordStart_iff {c : Char} : isWordStart c = true ↔
    65 ≤ c.toNat ∧ c.toNat ≤ 90 ∨ 97 ≤ c.toNat ∧ c.toNat ≤ 122 ∨ c.toNat = 95 := by
  have hline : c = '_' ↔ c.toNat = 95 := by
    constructor
    · rintro rfl
      rfl
    · exact fun h => Char.ext (UInt32.toNat_inj.mp h)
  have hstart : isWordStart c =
      (decide (65 ≤ c.val ∧ c.val ≤ 90) || (97 ≤ c.val && c.val ≤ 122) || c == '_') := rfl
  rw [hstart]
  simp [UInt32.le_iff_toNat_le, hline, or_assoc]

theorem isBlank_of_isDigit {c : Char} (h : c.isDigit = true) : Text.isBlank c = false := by
  rw [isDigit_iff] at h
  exact isBlank_of_visible (by omega)

theorem isBlank_of_isWordStart {c : Char} (h : isWordStart c = true) : Text.isBlank c = false := by
  rw [isWordStart_iff] at h
  exact isBlank_of_visible (by omega)

theorem isDigit_of_isWordStart {c : Char} (h : isWordStart c = true) : c.isDigit = false := by
  rw [isWordStart_iff] at h
  rw [Bool.eq_false_iff, ne_eq, isDigit_iff]
  omega

/-- A character that an operator may start with starts nothing else. -/
theorem start_of_mem_operatorTexts : ∀ t ∈ operatorTexts, ∃ c cs, t.toList = c :: cs ∧
    Text.isBlank c = false ∧ c ≠ '/' ∧ c.isDigit = false ∧ isWordStart c = false := by
  have h : ∀ t ∈ operatorTexts, t.toList.head?.any (fun c =>
      !Text.isBlank c && c != '/' && !c.isDigit && !isWordStart c) = true := by
    decide +kernel
  intro t ht
  obtain ⟨c, hc, hstart⟩ := (Option.any_eq_true _ _).mp (h t ht)
  refine ⟨c, t.toList.tail, List.eq_cons_of_mem_head? hc, ?_⟩
  simpa [and_assoc] using hstart

/-! ## Words and operators -/

theorem find?_spelling {ks : List Token.Kind} {k : Token.Kind} {s : String}
    (hunique : ∀ i ∈ ks, ∀ j ∈ ks, i.spelling? = j.spelling? → i = j) (hk : k ∈ ks)
    (hs : k.spelling? = some s) : ks.find? (fun k => k.spelling? = some s) = some k := by
  cases h : ks.find? fun k => k.spelling? = some s with
  | none => exact absurd hs (by simpa using List.find?_eq_none.mp h k hk)
  | some j =>
    have hj : j.spelling? = some s := by simpa using List.find?_some h
    rw [hunique j (List.mem_of_find?_eq_some h) k hk (hj.trans hs.symm)]

theorem ofWord_keyword {k : Token.Kind} {w : List Char} (hk : k ∈ Token.keywords)
    (hs : k.spelling? = some (String.ofList w)) : Token.Kind.ofWord w = k := by
  rw [Token.Kind.ofWord, find?_spelling (by decide) hk hs, Option.getD_some]

theorem ofWord_name {w : List Char}
    (h : ∀ k ∈ Token.keywords, k.spelling? ≠ some (String.ofList w)) :
    Token.Kind.ofWord w = .name := by
  have hnone : Token.keywords.find? (fun k => k.spelling? = some (String.ofList w)) = none :=
    List.find?_eq_none.mpr fun k hk => by simpa using h k hk
  rw [Token.Kind.ofWord, hnone, Option.getD_none]

theorem ofOperator?_eq_some {k : Token.Kind} {w : List Char} (hk : k ∈ Token.operators)
    (hs : k.spelling? = some (String.ofList w)) : Token.Kind.ofOperator? w = some k :=
  find?_spelling (by decide) hk hs

/-- A keyword is a word. -/
theorem word_of_keyword {k : Token.Kind} {w : List Char} (hk : k ∈ Token.keywords)
    (hs : k.spelling? = some (String.ofList w)) :
    ∃ c cs, w = c :: cs ∧ isWordStart c = true ∧ ∀ d ∈ cs, isWordPart d = true := by
  have h : ∀ k ∈ Token.keywords, k.spelling?.all (fun s =>
      s.toList.head?.any isWordStart && s.toList.tail.all isWordPart) = true := by
    decide +kernel
  have hword := h k hk
  rw [hs, Option.all_some, String.toList_ofList, Bool.and_eq_true] at hword
  obtain ⟨c, hc, hstart⟩ := (Option.any_eq_true _ _).mp hword.1
  exact ⟨c, w.tail, List.eq_cons_of_mem_head? hc, hstart, List.all_eq_true.mp hword.2⟩

theorem mem_operatorTexts {k : Token.Kind} (hk : k ∈ Token.operators) {s : String}
    (hs : k.spelling? = some s) : s ∈ operatorTexts := by
  have h : ∀ k ∈ Token.operators, ∀ s ∈ k.spelling?, s ∈ operatorTexts := by decide
  exact h k hk s hs

/-- A token is on one line. -/
theorem Piece.Formed.line_not_mem {p : Piece} (h : p.Formed) {k : Token.Kind}
    (hk : p.kind? = some k) : '\n' ∉ p.text := by
  have hword : ∀ {c : Char} {cs : List Char}, isWordStart c = true →
      (∀ d ∈ cs, isWordPart d = true) → '\n' ∉ c :: cs := by
    intro c cs hc hcs hn
    rcases List.mem_cons.mp hn with rfl | hn
    · exact absurd hc (by decide)
    · exact absurd (hcs _ hn) (by decide)
  cases h with
  | blanks => cases hk
  | comment => cases hk
  | number hne hds => exact fun hn => absurd (hds _ hn) (by decide)
  | keyword hmem hs =>
    obtain ⟨c, cs, rfl, hc, hcs⟩ := word_of_keyword hmem hs
    exact hword hc hcs
  | name hc hcs => exact hword hc hcs
  | operator hmem hs =>
    have hoperators : ∀ t ∈ operatorTexts, '\n' ∉ t.toList := by decide +kernel
    simpa using hoperators _ (mem_operatorTexts hmem hs)

theorem exists_operator {t : String} (ht : t ∈ operatorTexts) :
    ∃ k ∈ Token.operators, k.spelling? = some t := by
  have h : ∀ t ∈ operatorTexts, ∃ k ∈ Token.operators, k.spelling? = some t := by decide
  exact h t ht

/-- No operator begins another one, so there is one at most at the front of a text. -/
theorem operatorTexts_unique {t u : String} (ht : t ∈ operatorTexts) (hu : u ∈ operatorTexts)
    {cs : List Char} (htc : t.toList <+: cs) (huc : u.toList <+: cs) : t = u := by
  have h : ∀ t ∈ operatorTexts, ∀ u ∈ operatorTexts, t.toList <+: u.toList → t = u := by
    decide +kernel
  rcases List.prefix_or_prefix_of_prefix htc huc with hp | hp
  · exact h t ht u hu hp
  · exact (h u hu t ht hp).symm

theorem find?_operatorTexts {t : String} (ht : t ∈ operatorTexts) {cs : List Char}
    (h : t.toList <+: cs) :
    operatorTexts.find? (fun t => t.toList.isPrefixOf cs) = some t := by
  cases hf : operatorTexts.find? fun t => t.toList.isPrefixOf cs with
  | none => exact absurd h (by simpa using List.find?_eq_none.mp hf t ht)
  | some u =>
    have hu : u.toList <+: cs := by simpa using List.find?_some hf
    rw [operatorTexts_unique (List.mem_of_find?_eq_some hf) ht hu h]

/-! ## The first piece -/

namespace Lexeme

/-- An operator is taken if it is the front of the text. -/
theorem take?_ofOperator (text cs : List Char) :
    (Alternative.ofOperator text).take? cs
      = if text.isPrefixOf cs then some ⟨some .operator, text⟩ else none := by
  have htaken : taken? (fun _ => false) (text.map fun c d => c == d) cs
      = if text.isPrefixOf cs then some text else none := by
    induction text generalizing cs with
    | nil => cases cs <;> rfl
    | cons c text ih =>
      cases cs with
      | nil => rfl
      | cons d cs =>
        rw [List.map_cons, taken?, ih, List.isPrefixOf]
        by_cases hd : (c == d) = true
        · obtain rfl := eq_of_beq hd
          by_cases hp : text.isPrefixOf cs = true <;> simp [hp]
        · simp [hd]
  unfold Alternative.take? Alternative.ofOperator
  rw [htaken]
  split <;> rfl

theorem findSome?_ofOperator (ts : List String) (cs : List Char) :
    (ts.map fun t => Alternative.ofOperator t.toList).findSome? (fun a => a.take? cs)
      = (ts.find? fun t => t.toList.isPrefixOf cs).map fun t => ⟨some .operator, t.toList⟩ := by
  induction ts with
  | nil => rfl
  | cons t ts ih =>
    rw [List.map_cons, List.findSome?_cons, take?_ofOperator, List.find?_cons]
    by_cases ht : t.toList.isPrefixOf cs = true
    · simp [ht]
    · simp [ht, ih]

theorem first?_nil : first? [] = none := rfl

/-- The alternatives in order, each with what it takes of a text that is not empty. -/
theorem first?_cons (c : Char) (cs : List Char) : first? (c :: cs) =
    if Text.isBlank c then some ⟨some .skipped, c :: cs.takeWhile Text.isBlank⟩
    else if c = '/' ∧ cs.head? = some '/' then some ⟨some .skipped, c :: cs.takeWhile (· ≠ '\n')⟩
    else if c.isDigit then some ⟨some .number, c :: cs.takeWhile Char.isDigit⟩
    else if isWordStart c then some ⟨some .word, c :: cs.takeWhile isWordPart⟩
    else
      (operatorTexts.find? fun t => t.toList.isPrefixOf (c :: cs)).map fun t =>
        ⟨some .operator, t.toList⟩ := by
  have hcomment : (taken? (· ≠ '\n') [(· == '/'), (· == '/')] (c :: cs))
      = if c = '/' ∧ cs.head? = some '/' then some (c :: cs.takeWhile (· ≠ '\n')) else none := by
    by_cases hc : c = '/'
    · cases cs with
      | nil => simp [taken?]
      | cons d cs => by_cases hd : d = '/' <;> simp [taken?, hc, hd]
    · simp [taken?, hc]
  rw [first?, alternatives, List.findSome?_append, findSome?_ofOperator]
  simp only [List.findSome?_cons, List.findSome?_nil, Alternative.take?, hcomment]
  by_cases hblank : Text.isBlank c = true
  · simp [taken?, hblank]
  by_cases hslash : c = '/' ∧ cs.head? = some '/'
  · obtain ⟨rfl, hnext⟩ := hslash
    simp [taken?, hblank, hnext]
  by_cases hdigit : c.isDigit = true
  · simp [taken?, hblank, hslash, hdigit]
  by_cases hword : isWordStart c = true
  · simp [taken?, hblank, hslash, hdigit, hword]
  · simp [taken?, hblank, hslash, hdigit, hword]

theorem first?_blank {c : Char} (hc : Text.isBlank c = true) (cs : List Char) :
    first? (c :: cs) = some ⟨some .skipped, c :: cs.takeWhile Text.isBlank⟩ := by
  rw [first?_cons, if_pos hc]

theorem first?_comment (cs : List Char) :
    first? ('/' :: '/' :: cs)
      = some ⟨some .skipped, '/' :: ('/' :: cs).takeWhile (· ≠ '\n')⟩ := by
  rw [first?_cons, if_neg (by decide), if_pos ⟨rfl, rfl⟩]

theorem first?_digit {c : Char} (hc : c.isDigit = true) (cs : List Char) :
    first? (c :: cs) = some ⟨some .number, c :: cs.takeWhile Char.isDigit⟩ := by
  have hslash : c ≠ '/' := by
    rintro rfl
    exact absurd hc (by decide)
  rw [first?_cons, if_neg (by simp [isBlank_of_isDigit hc]), if_neg fun h => hslash h.1, if_pos hc]

theorem first?_word {c : Char} (hc : isWordStart c = true) (cs : List Char) :
    first? (c :: cs) = some ⟨some .word, c :: cs.takeWhile isWordPart⟩ := by
  have hslash : c ≠ '/' := by
    rintro rfl
    exact absurd hc (by decide)
  rw [first?_cons, if_neg (by simp [isBlank_of_isWordStart hc]), if_neg fun h => hslash h.1,
    if_neg (by simp [isDigit_of_isWordStart hc]), if_pos hc]

theorem first?_operator {t : String} (ht : t ∈ operatorTexts) {cs : List Char}
    (h : t.toList <+: cs) : first? cs = some ⟨some .operator, t.toList⟩ := by
  obtain ⟨c, more, htext, hblank, hslash, hdigit, hword⟩ := start_of_mem_operatorTexts t ht
  obtain ⟨rest, rfl⟩ := h
  have hfind := find?_operatorTexts ht (List.prefix_append t.toList rest)
  simp only [htext, List.cons_append] at hfind ⊢
  rw [first?_cons, if_neg (by simp [hblank]), if_neg fun h => hslash h.1, if_neg (by simp [hdigit]),
    if_neg (by simp [hword]), hfind, Option.map_some, htext]

end Lexeme

namespace Piece

open Lexeme

theorem fits_of_ne {p : Piece} (h : p.kind? ≠ some .number) : p.Fits :=
  fun hp => absurd hp h

theorem reading_of_ne {p : Piece} (h : p.kind? ≠ some .number) : p.reading = .ok p.kind? :=
  if_pos (fits_of_ne h)

/-- A number is read by its value. -/
theorem kind?_number {ds : List Char} (hne : ds ≠ []) (h : ∀ c ∈ ds, c.isDigit = true) :
    Lexeme.kind? ⟨some .number, ds⟩ = reading ⟨some .number, ds⟩ := by
  have hfits : (⟨some .number, ds⟩ : Piece).Fits ↔ (Text.word? ds).isSome = true :=
    ⟨fun hf => (isSome_word? hne h).mpr (hf rfl), fun hw _ => (isSome_word? hne h).mp hw⟩
  show (if (Text.word? ds).isSome = true then _ else _) = _
  by_cases hw : (Text.word? ds).isSome = true
  · rw [if_pos hw, reading, if_pos (hfits.mpr hw)]
  · rw [if_neg hw, reading, if_neg fun hf => hw (hfits.mp hf)]

/-- A word at the front of a text is no longer than what is taken, and is read by its kind. -/
theorem first?_of_word {c : Char} {cs : List Char} (hc : isWordStart c = true)
    (h : ∀ d ∈ cs, isWordPart d = true) (more : List Char) :
    ∃ l, first? (c :: cs ++ more) = some l ∧ (c :: cs).length ≤ l.text.length ∧
      (l.text = c :: cs → l.kind? = .ok (some (Token.Kind.ofWord (c :: cs)))) := by
  refine ⟨_, first?_word hc (cs ++ more), ?_, fun htext => ?_⟩
  · rw [List.takeWhile_append_of_pos h]
    simp
  · exact congrArg (fun w => Except.ok (some (Token.Kind.ofWord w))) htext

/-- What is taken off a text is at least as long as any piece at its front. If it is that piece, it
is read as the piece is. -/
theorem Formed.first? {p : Piece} (h : p.Formed) {cs : List Char} (hp : p.text <+: cs) :
    ∃ l, first? cs = some l ∧ p.text.length ≤ l.text.length ∧
      (l.text = p.text → l.kind? = p.reading) := by
  obtain ⟨more, rfl⟩ := hp
  cases h with
  | @blanks cs hne h =>
    obtain ⟨c, cs, rfl⟩ := List.exists_cons_of_ne_nil hne
    rw [List.forall_mem_cons] at h
    refine ⟨_, first?_blank h.1 (cs ++ more), ?_, fun _ => ?_⟩
    swap
    · exact (reading_of_ne (p := ⟨none, c :: cs⟩) nofun).symm
    rw [List.takeWhile_append_of_pos h.2]
    simp
  | @comment cs h =>
    refine ⟨_, first?_comment (cs ++ more), ?_, fun _ => ?_⟩
    swap
    · exact (reading_of_ne (p := ⟨none, '/' :: '/' :: cs⟩) nofun).symm
    have hline : ∀ c ∈ '/' :: cs, decide (c ≠ '\n') = true := by
      simp only [List.forall_mem_cons, decide_eq_true_eq]
      exact ⟨by decide, fun c hc hn => h (hn ▸ hc)⟩
    rw [← List.cons_append, List.takeWhile_append_of_pos hline]
    simp
  | @number cs hne h =>
    obtain ⟨c, cs, rfl⟩ := List.exists_cons_of_ne_nil hne
    have hcs := (List.forall_mem_cons.mp h).2
    refine ⟨_, first?_digit (h c (List.mem_cons_self ..)) (cs ++ more), ?_, fun htext => ?_⟩
    · rw [List.takeWhile_append_of_pos hcs]
      simp
    · change c :: (cs ++ more).takeWhile Char.isDigit = c :: cs at htext
      rw [htext]
      exact kind?_number hne h
  | @keyword k cs hk hs =>
    obtain ⟨c, cs, rfl, hc, h⟩ := word_of_keyword hk hs
    have hnumber : some k ≠ some .number := by
      rintro ⟨⟩
      cases hs
    rw [reading_of_ne hnumber]
    have := first?_of_word hc h more
    rwa [ofWord_keyword hk hs] at this
  | @name c cs hc h hk =>
    rw [reading_of_ne (by simp)]
    have := first?_of_word hc h more
    rwa [ofWord_name hk] at this
  | @operator k cs hk hs =>
    have hnumber : some k ≠ some .number := by
      rintro ⟨⟩
      cases hs
    have hmem := mem_operatorTexts hk hs
    refine ⟨_, first?_operator hmem (by simp), by simp, fun _ => ?_⟩
    rw [reading_of_ne hnumber, Lexeme.kind?, String.toList_ofList, ofOperator?_eq_some hk hs]

/-- What is taken off a text is a piece at its front. -/
theorem exists_formed {cs : List Char} {l : Lexeme} (h : Lexeme.first? cs = some l) :
    ∃ p : Piece, p.Formed ∧ p.text = l.text ∧ p.text <+: cs := by
  cases cs with
  | nil =>
    rw [first?_nil] at h
    cases h
  | cons c cs =>
    rw [first?_cons] at h
    split at h
    · next hc =>
      cases h
      refine ⟨⟨none, _⟩, .blanks (List.cons_ne_nil _ _) ?_, rfl, ?_⟩
      · rw [List.forall_mem_cons]
        exact ⟨hc, fun d hd => (List.mem_takeWhile_imp hd)⟩
      · exact (List.prefix_cons_inj c).mpr (List.takeWhile_prefix _)
    split at h
    · next hc =>
      cases h
      obtain ⟨rfl, hcs⟩ := hc
      obtain ⟨cs, rfl⟩ := List.head?_eq_some_iff.mp hcs
      refine ⟨⟨none, '/' :: '/' :: cs.takeWhile (· ≠ '\n')⟩, .comment fun hn => ?_, by simp, ?_⟩
      · simpa using List.mem_takeWhile_imp hn
      · exact (List.prefix_cons_inj _).mpr
          ((List.prefix_cons_inj _).mpr (List.takeWhile_prefix _))
    split at h
    · next hc =>
      cases h
      refine ⟨⟨some .number, _⟩, .number (List.cons_ne_nil _ _) ?_, rfl, ?_⟩
      · rw [List.forall_mem_cons]
        exact ⟨hc, fun d hd => (List.mem_takeWhile_imp hd)⟩
      · exact (List.prefix_cons_inj c).mpr (List.takeWhile_prefix _)
    split at h
    · next hc =>
      cases h
      have hfront : c :: cs.takeWhile isWordPart <+: c :: cs :=
        (List.prefix_cons_inj c).mpr (List.takeWhile_prefix _)
      by_cases hk : ∃ k ∈ Token.keywords,
          k.spelling? = some (String.ofList (c :: cs.takeWhile isWordPart))
      · obtain ⟨k, hk, hs⟩ := hk
        exact ⟨⟨some k, _⟩, .keyword hk hs, rfl, hfront⟩
      · refine ⟨⟨some .name, _⟩, .name hc (fun d hd => List.mem_takeWhile_imp hd) ?_, rfl, hfront⟩
        exact fun k hmem hs => hk ⟨k, hmem, hs⟩
    · obtain ⟨t, ht, rfl⟩ := Option.map_eq_some_iff.mp h
      obtain ⟨k, hk, hs⟩ := exists_operator (List.mem_of_find?_eq_some ht)
      refine ⟨⟨some k, t.toList⟩, .operator hk (by rw [String.ofList_toList]; exact hs), rfl, ?_⟩
      simpa using List.find?_some ht

/-- The lexer takes the longest piece at the front of a text, and reads it by its kind. -/
theorem isLongest_of_first? {cs : List Char} {l : Lexeme} (h : Lexeme.first? cs = some l) :
    ∃ p : Piece, p.IsLongest cs ∧ p.text = l.text ∧ l.kind? = p.reading := by
  have hlongest : ∀ q : Piece, q.Formed → q.text <+: cs → q.text.length ≤ l.text.length ∧
      (l.text = q.text → l.kind? = q.reading) := by
    intro q hq hfront
    obtain ⟨l', hl', hle, hread⟩ := hq.first? hfront
    rw [h] at hl'
    cases hl'
    exact ⟨hle, hread⟩
  obtain ⟨p, hp, htext, hfront⟩ := exists_formed h
  refine ⟨p, ⟨hp, hfront, fun q hq hqf => ?_⟩, htext, (hlongest p hp hfront).2 htext.symm⟩
  rw [htext]
  exact (hlongest q hq hqf).1

/-- The lexer takes nothing exactly if there is no piece at the front of a text. -/
theorem first?_eq_none {cs : List Char} :
    Lexeme.first? cs = none ↔ ∀ p : Piece, p.Formed → ¬p.text <+: cs := by
  constructor
  · intro h p hp hfront
    obtain ⟨l, hl, -⟩ := hp.first? hfront
    rw [h] at hl
    cases hl
  · intro h
    cases hf : Lexeme.first? cs with
    | none => rfl
    | some l =>
      obtain ⟨p, hp, -, hfront⟩ := exists_formed hf
      exact absurd hfront (h p hp)

/-- A longest piece is what the lexer takes. -/
theorem IsLongest.first? {p : Piece} {cs : List Char} (h : p.IsLongest cs) :
    ∃ l, Lexeme.first? cs = some l ∧ l.text = p.text ∧ l.kind? = p.reading := by
  obtain ⟨l, hl, hle, hread⟩ := h.formed.first? h.front
  obtain ⟨q, hq, htext, -⟩ := isLongest_of_first? hl
  have hlen : l.text.length = p.text.length :=
    Nat.le_antisymm (htext ▸ h.le q hq.formed hq.front) hle
  have hsame : l.text = p.text :=
    (List.prefix_of_prefix_length_le (htext ▸ hq.front) h.front (Nat.le_of_eq hlen)).eq_of_length
      hlen
  exact ⟨l, hl, hsame, hread hsame⟩

/-- There is one longest piece at most. -/
theorem IsLongest.unique {p q : Piece} {cs : List Char} (hp : p.IsLongest cs)
    (hq : q.IsLongest cs) : p = q := by
  obtain ⟨l, hl, htext, hread⟩ := hp.first?
  obtain ⟨l', hl', htext', hread'⟩ := hq.first?
  rw [hl] at hl'
  cases hl'
  cases p
  cases q
  congr
  · exact kind?_eq_of_reading (hread.symm.trans hread')
  · exact htext.symm.trans htext'

end Piece

end Looplet
