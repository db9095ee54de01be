import Looplet.Proofs.Tree.Anchors
import Looplet.Text.Lines

/-!
# Where nodes are in the text

A position is a line and a column, and it may be looked up in the text: there begins the token that
has it (`standsIn_of_tokenize`). The tokens that nodes are named after are some of those of the
text, so each of them stands where its node says, and further on than those before it
(`anchors_standIn`).
-/

namespace Looplet

/-- The text of the token stands at its position. Lines are what line feeds divide the text into,
and lines and characters in a line are counted from one. -/
def Token.StandsIn (src : String) (t : Token) : Prop :=
  ∃ l c line, t.position = ⟨l + 1, c + 1⟩ ∧
    (Text.splitChars '\n' src.toList)[l]? = some line ∧ t.text.toList <+: line.drop c

/-! ## Lines and columns -/

theorem splitChars_cons_of_ne {sep c : Char} (h : c ≠ sep) (cs : List Char) :
    ∃ first rest, Text.splitChars sep cs = first :: rest ∧
      Text.splitChars sep (c :: cs) = (c :: first) :: rest := by
  obtain ⟨first, rest, hcs⟩ := List.exists_cons_of_ne_nil (Text.splitChars_ne_nil sep cs)
  exact ⟨first, rest, hcs, by rw [Text.splitChars, if_neg h, hcs]⟩

/-- A text without separators is at the front of the first part. -/
theorem splitChars_append_of_not_mem {sep : Char} {xs : List Char} (h : sep ∉ xs)
    (ys : List Char) :
    ∃ first rest, Text.splitChars sep (xs ++ ys) = first :: rest ∧ xs <+: first := by
  induction xs with
  | nil =>
    obtain ⟨first, rest, hys⟩ := List.exists_cons_of_ne_nil (Text.splitChars_ne_nil sep ys)
    exact ⟨first, rest, hys, List.nil_prefix⟩
  | cons x xs ih =>
    rw [List.mem_cons, not_or] at h
    obtain ⟨first, rest, hsplit, hxs⟩ := ih h.2
    obtain ⟨first', rest', hsplit', hcons⟩ := splitChars_cons_of_ne (Ne.symm h.1) (xs ++ ys)
    rw [hsplit] at hsplit'
    cases hsplit'
    exact ⟨x :: first, rest, hcons, (List.cons_prefix_cons).mpr ⟨rfl, hxs⟩⟩

/-- After a piece of text that starts `k` characters into a line, the place that its position tells
is where the rest begins. The `k` characters count in the first line only. -/
theorem exists_line_of_advance {text : List Char} (htext : '\n' ∉ text) (after : List Char)
    (before : List Char) (n k : Nat) :
    ∃ l c line, Position.advance ⟨n + 1, k + 1⟩ before =
        ⟨n + l + 1, (if l = 0 then k else 0) + c + 1⟩ ∧
      (Text.splitChars '\n' (before ++ (text ++ after)))[l]? = some line ∧
      text <+: line.drop c := by
  induction before generalizing n k with
  | nil =>
    obtain ⟨first, rest, hsplit, hfirst⟩ := splitChars_append_of_not_mem htext after
    exact ⟨0, 0, first, rfl, by rw [List.nil_append, hsplit]; rfl, hfirst⟩
  | cons d before ih =>
    rw [List.cons_append, Position.advance_cons, Position.step]
    by_cases hd : d = '\n'
    · obtain ⟨l, c, line, hpos, hline, hprefix⟩ := ih (n + 1) 0
      refine ⟨l + 1, c, line, ?_, ?_, hprefix⟩
      · rw [if_pos hd, hpos]
        simp only [ite_self, Nat.succ_ne_zero, if_false]
        rw [Nat.add_right_comm n 1 l, Nat.add_assoc n l 1]
      · rw [Text.splitChars, if_pos hd]
        exact hline
    · obtain ⟨l, c, line, hpos, hline, hprefix⟩ := ih n (k + 1)
      obtain ⟨first, rest, hsplit, hcons⟩ := splitChars_cons_of_ne hd (before ++ (text ++ after))
      rw [if_neg hd, hpos, hcons]
      rw [hsplit] at hline
      cases l with
      | zero =>
        cases hline
        exact ⟨0, c + 1, d :: line, by simp [Nat.add_assoc, Nat.add_comm c 1], rfl, hprefix⟩
      | succ l => exact ⟨l + 1, c, line, rfl, hline, hprefix⟩

/-! ## Tokens and nodes -/

variable {src : String}

theorem standsIn_of_tokenize {ts : List Token} (h : tokenize src = .ok ts) :
    ∀ t ∈ ts, t.StandsIn src := by
  obtain ⟨ps, hm, rfl⟩ := exists_munch_of_tokenize h
  have hsrc := hm.textOf_append
  rw [List.append_nil] at hsrc
  have hplace : ∀ before text after, '\n' ∉ text → src.toList = before ++ (text ++ after) →
      ∀ k, Token.StandsIn src ⟨k, String.ofList text, Position.start.advance before⟩ := by
    intro before text after htext hsplit k
    obtain ⟨l, c, line, hpos, hline, hprefix⟩ := exists_line_of_advance htext after before 0 0
    refine ⟨l, c, line, ?_, hsplit ▸ hline, by rwa [String.toList_ofList]⟩
    simpa [Position.start] using hpos
  rw [List.forall_mem_append, List.forall_mem_singleton]
  constructor
  · rintro ⟨k, text, pos⟩ ht
    obtain ⟨ps₁, p, ps₂, rfl, hk, rfl, rfl⟩ := mem_tokensAfter ht
    have hline := (hm.formed p (by simp)).line_not_mem hk
    rw [List.nil_append]
    exact hplace (textOf ps₁) p.text (textOf ps₂) hline
      (by simp [← hsrc, textOf]) k
  · exact hplace src.toList [] [] List.not_mem_nil (by simp) .ending

theorem Ordered.nodup {ts : List Token} (h : Ordered ts) : (ts.map Token.position).Nodup := by
  rw [List.Nodup, List.pairwise_map]
  exact h.imp Position.Before.ne

/-- The nodes in the tree of a text that keep a position stand there: the text has the token that
they are named after at their line and column. Along the tree the positions increase, so no two
nodes share one. -/
theorem anchors_standIn {p : Program} (h : parse src = .ok p) :
    (∀ t ∈ p.anchors, t.StandsIn src) ∧ Ordered p.anchors ∧
      (p.anchors.map Token.position).Nodup := by
  have hordered := ordered_anchors h
  refine ⟨?_, hordered, hordered.nodup⟩
  obtain ⟨ts, e, hts, -, hp⟩ := exists_tokens_of_parse h
  have hspelled := spelled_of_tokenize hts
  have hstands := standsIn_of_tokenize hts
  rw [List.forall_mem_append] at hspelled hstands
  exact fun t ht => hstands.1 t ((hp.anchors hspelled.1).subset ht)

/-- A text with characters outside of ASCII before tokens, in a comment and in blanks. -/
def accented : String :=
  "// é\nfunc main() \x7b\n\u2003outer: while a \x7b b <- f(a + 1); break outer; \x7d\n\x7d"

theorem accented_standsIn : ∃ p, parse accented = .ok p ∧
    p.anchors = [⟨.funcWord, "func", ⟨2, 1⟩⟩, ⟨.name, "outer", ⟨3, 2⟩⟩, ⟨.name, "a", ⟨3, 15⟩⟩,
      ⟨.name, "b", ⟨3, 19⟩⟩, ⟨.name, "f", ⟨3, 24⟩⟩, ⟨.name, "a", ⟨3, 26⟩⟩,
      ⟨.breakWord, "break", ⟨3, 34⟩⟩] ∧
    (∀ t ∈ p.anchors, t.StandsIn accented) ∧ Ordered p.anchors ∧
      (p.anchors.map Token.position).Nodup := by
  have hanchors : (parse accented).toOption.map Program.anchors = some
      [⟨.funcWord, "func", ⟨2, 1⟩⟩, ⟨.name, "outer", ⟨3, 2⟩⟩, ⟨.name, "a", ⟨3, 15⟩⟩,
        ⟨.name, "b", ⟨3, 19⟩⟩, ⟨.name, "f", ⟨3, 24⟩⟩, ⟨.name, "a", ⟨3, 26⟩⟩,
        ⟨.breakWord, "break", ⟨3, 34⟩⟩] := by
    decide +kernel
  obtain ⟨p, hp⟩ : ∃ p, parse accented = .ok p := exists_ok (by decide +kernel)
  rw [hp] at hanchors
  exact ⟨p, hp, Option.some.inj hanchors, anchors_standIn hp⟩

end Looplet
