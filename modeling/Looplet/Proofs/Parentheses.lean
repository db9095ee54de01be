import Looplet.Proofs.Layout
import Looplet.Proofs.Token.Insertion
import Looplet.Proofs.Tree.Occurrence

/-!
# Parentheses

Parentheses leave no node in the tree, and an expression in parentheses may stand wherever the
expression may. So around any part of the tokens that is read as an expression (`Program.ReadsAs`)
they change nothing but positions (`parens_immaterial`):

    pre ++ mid ++ post            `mid` is read as `e` in the tree `p`
    pre ++ ( ++ mid ++ ) ++ post  is read as `p`, too

In a text they may be put where the part starts and where what follows it starts
(`exists_tokenize_parens`).
-/

namespace Looplet

open Grammar (Part)

/-- The trees are the same up to their positions. -/
def Program.SameButPlaces (p q : Program) : Prop :=
  (p.moved fun _ => Position.start) = q.moved fun _ => Position.start

/-- The texts are compiled to the same module, or fail with the same error up to places. -/
def CompileAlike (verify : Code.Module → Option String) (src src' : String) : Prop :=
  (∃ m, compileVerified verify src = .ok m ∧ compileVerified verify src' = .ok m) ∨
    ∃ e e', compileVerified verify src = .error e ∧ compileVerified verify src' = .error e' ∧
      e.SameButPlace e'

/-- The tokens `mid`, with `pre` before and `post` after them, are read as the expression `e` of the
program. The first ending token ends the program. -/
def Program.ReadsAs (p : Program) (ts pre mid post : List Token) (e : Tree.Expr) : Prop :=
  ts = pre ++ (mid ++ post) ∧ ∃ body last after, post = body ++ last :: after ∧
    last.kind = .ending ∧ Part.Holds (.items p.items) pre mid body e

/-- Kinds and texts of the tokens with parentheses around `mid`. -/
def withParens (pre mid post : List Token) : List (Token.Kind × String) :=
  pre.map Token.content ++ (.openParen, "(") ::
    (mid.map Token.content ++ (.closeParen, ")") :: post.map Token.content)

variable {ts us pre mid post : List Token} {p : Program} {e : Tree.Expr}

/-! ## Tokens -/

theorem Parser.terminated_append {ts us : List Token} (h : us ≠ []) :
    Terminated (ts ++ us) ↔ Terminated us := by
  rw [Terminated, Terminated, List.getLast?_append_of_ne_nil _ h]

theorem Parser.terminated_of_content_eq (h : us.map Token.content = ts.map Token.content)
    (hts : Terminated ts) : Terminated us := by
  obtain ⟨last, hlast, hk⟩ := hts
  have hcontent := congrArg List.getLast? h
  rw [List.getLast?_map, List.getLast?_map, hlast] at hcontent
  obtain ⟨last', hlast', hsame⟩ := Option.map_eq_some_iff.mp hcontent
  exact ⟨last', hlast', (congrArg Prod.fst hsame).trans hk⟩

theorem Parser.terminated_of_ofTokens (h : Program.ofTokens ts = .ok p) : Terminated ts := by
  by_contra hts
  rw [ofTokens_of_not_terminated hts] at h
  cases h

/-- Tokens with the same kinds and texts are read as the same tree up to positions. -/
theorem exists_ofTokens_of_content_eq (h : us.map Token.content = ts.map Token.content)
    (hp : Program.ofTokens ts = .ok p) :
    ∃ q, Program.ofTokens us = .ok q ∧ q.SameButPlaces p := by
  have hts := Parser.terminated_of_ofTokens hp
  have hread := congrArg Program.ofTokens (moved_of_content_eq h .start)
  rw [(Parser.terminated_of_content_eq h hts).ofTokens_map_moved, hts.ofTokens_map_moved,
    hp] at hread
  rcases mapBoth_eq_mapBoth hread with ⟨q, p', hq, hp', hmoved⟩ | ⟨-, e', -, he', -⟩
  · cases hp'
    exact ⟨q, hq, hmoved⟩
  · cases he'

/-- A list that goes on from a program with an ending token is read as that program. -/
theorem ofTokens_of_isItems {body after : List Token} {last : Token}
    (h : Grammar.IsItems body p.items) (hlast : last.kind = .ending)
    (hts : Parser.Terminated (last :: after)) :
    Program.ofTokens (body ++ last :: after) = .ok p := by
  have hterminated : Parser.Terminated (body ++ last :: after) :=
    (Parser.terminated_append (List.cons_ne_nil _ _)).mpr hts
  rw [Parser.ofTokens_eq_ok hterminated, Parser.items_eq_ok h.inner hlast]
  exact h

namespace Program.ReadsAs

/-- With parentheses around the expression the tokens are read as the same tree. -/
theorem exists_ofTokens (h : p.ReadsAs ts pre mid post e) (hts : Parser.Terminated ts)
    (hus : us.map Token.content = withParens pre mid post) :
    ∃ q, Program.ofTokens us = .ok q ∧ q.SameButPlaces p := by
  obtain ⟨rfl, body, last, after, rfl, hlast, hholds⟩ := h
  let o : Token := ⟨.openParen, "(", .start⟩
  let c : Token := ⟨.closeParen, ")", .start⟩
  have hitems := (hholds.paren (o := o) (c := c) rfl rfl).is
  rw [← List.append_assoc, ← List.append_assoc,
    Parser.terminated_append (List.cons_ne_nil _ _)] at hts
  refine exists_ofTokens_of_content_eq ?_ (ofTokens_of_isItems hitems hlast hts)
  rw [hus]
  simp [withParens, Token.content, o, c]

end Program.ReadsAs

/-! ## Texts -/

/-- In a text the parentheses are put before the first token of the expression and before the token
that follows it. -/
theorem exists_tokenize_parens {a m z : String} (h : p.ReadsAs ts pre mid post e)
    (hts : tokenize (a ++ m ++ z) = .ok ts)
    (hmid : ∀ t ∈ mid.head?, t.position = Position.start.advance a.toList)
    (hpost : ∀ t ∈ post.head?, t.position = Position.start.advance (a ++ m).toList) :
    ∃ us, tokenize (a ++ "(" ++ m ++ ")" ++ z) = .ok us ∧
      us.map Token.content = withParens pre mid post := by
  obtain ⟨rfl, body, last, after, rfl, -, hholds⟩ := h
  have hinner := Grammar.IsItems.inner hholds.is
  obtain ⟨⟨t, mid, rfl⟩, u, body, rfl⟩ := hholds.exists_cons
  simp only [List.mem_append, List.mem_cons] at hinner
  have ht : t.kind ≠ .ending := hinner t (by simp)
  have hu : u.kind ≠ .ending := hinner u (by simp)
  -- the second one first: what stands before it stays in its place
  have hclose : tokenize (a ++ m ++ z)
      = .ok (pre ++ t :: mid ++ u :: (body ++ last :: after)) := by
    simpa using hts
  obtain ⟨vs, hvs, hsame⟩ := exists_tokenize_operator (k := .closeParen) hclose hu
    (hpost u rfl) (by decide) rfl
  have hopen : tokenize (a ++ (m ++ ")" ++ z))
      = .ok (pre ++ t :: (mid ++ ⟨.closeParen, ")", u.position⟩ :: vs)) := by
    simpa [String.append_assoc] using hvs
  obtain ⟨ws, hws, hsame'⟩ := exists_tokenize_operator (k := .openParen) hopen ht
    (hmid t rfl) (by decide) rfl
  refine ⟨_, by simpa [String.append_assoc] using hws, ?_⟩
  simp [withParens, hsame', hsame, Token.content]

theorem compileAlike_of_sameButPlaces {q : Program} {src src' : String}
    (verify : Code.Module → Option String) (hp : parse src = .ok p) (hq : parse src' = .ok q)
    (h : q.SameButPlaces p) : CompileAlike verify src src' := by
  rw [CompileAlike, compileVerified, compileVerified, hp, hq]
  exact emit_of_moved_eq h.symm

/-- Parentheses around an expression are not seen. The expressions in the tree of a list of tokens
are those that some of the tokens are read as. With parentheses around these tokens, wherever they
stand, the list is read as the same tree up to positions, and texts with the two lists of tokens are
compiled alike; and parentheses put into a text around the expression make such a text. -/
theorem parens_immaterial (h : Program.ofTokens ts = .ok p) :
    (∀ e, e ∈ p.exprs ↔ ∃ pre mid post, p.ReadsAs ts pre mid post e) ∧
    ∀ pre mid post e, p.ReadsAs ts pre mid post e →
      (∀ us, us.map Token.content = withParens pre mid post →
        (∃ q, Program.ofTokens us = .ok q ∧ q.SameButPlaces p) ∧
        ∀ verify src src', tokenize src = .ok ts → tokenize src' = .ok us →
          CompileAlike verify src src') ∧
      ∀ a m z : String, tokenize (a ++ m ++ z) = .ok ts →
        (∀ t ∈ mid.head?, t.position = Position.start.advance a.toList) →
        (∀ t ∈ post.head?, t.position = Position.start.advance (a ++ m).toList) →
        ∃ us, tokenize (a ++ "(" ++ m ++ ")" ++ z) = .ok us ∧
          us.map Token.content = withParens pre mid post := by
  have hterminated := Parser.terminated_of_ofTokens h
  refine ⟨fun e => ?_, fun pre mid post e hread => ⟨fun us hus => ?_, fun a m z hts => ?_⟩⟩
  · obtain ⟨before, last, after, rfl, hbefore, hlast⟩ := Parser.exists_first_ending hterminated
    rw [Parser.ofTokens_eq_ok hterminated, Parser.items_eq_ok hbefore hlast] at h
    rw [Grammar.mem_exprs_iff h]
    constructor
    · rintro ⟨pre, mid, post, rfl, hholds⟩
      exact ⟨pre, mid, post ++ last :: after, by simp, post, last, after, rfl, hlast, hholds⟩
    · rintro ⟨pre, mid, -, hsplit, body, last', after', rfl, hlast', hholds⟩
      have hlists : before ++ last :: after = pre ++ (mid ++ body) ++ last' :: after' := by
        rw [hsplit]
        simp
      have hbody := Parser.eq_of_first_ending hlists hbefore (by simpa using hlast)
        (Grammar.IsItems.inner hholds.is) hlast'
      exact ⟨pre, mid, body, hbody, hholds⟩
  · obtain ⟨q, hq, hsame⟩ := hread.exists_ofTokens hterminated hus
    refine ⟨⟨q, hq, hsame⟩, fun verify src src' hsrc hsrc' => ?_⟩
    exact compileAlike_of_sameButPlaces verify (parse_eq_ok.mpr ⟨ts, hsrc, h⟩)
      (parse_eq_ok.mpr ⟨us, hsrc', hq⟩) hsame
  · exact exists_tokenize_parens hread hts

/-- A text in three parts: up to a condition, the condition, and the body of the loop. -/
def barring : String × String × String :=
  ("func main() \x7b while ", "1 == 2 ", "\x7b \x7d \x7d")

theorem barring_parens :
    ∃ m, compileVerified lastVerified (barring.1 ++ barring.2.1 ++ barring.2.2) = .ok m ∧
      compileVerified lastVerified (barring.1 ++ "(" ++ barring.2.1 ++ ")" ++ barring.2.2)
        = .ok m := by
  let pre : List Token := [⟨.funcWord, "func", ⟨1, 1⟩⟩, ⟨.name, "main", ⟨1, 6⟩⟩,
    ⟨.openParen, "(", ⟨1, 10⟩⟩, ⟨.closeParen, ")", ⟨1, 11⟩⟩, ⟨.openBrace, "\x7b", ⟨1, 13⟩⟩,
    ⟨.whileWord, "while", ⟨1, 15⟩⟩]
  let mid : List Token :=
    [⟨.number, "1", ⟨1, 21⟩⟩, ⟨.equal, "==", ⟨1, 23⟩⟩, ⟨.number, "2", ⟨1, 26⟩⟩]
  let body : List Token := [⟨.openBrace, "\x7b", ⟨1, 28⟩⟩, ⟨.closeBrace, "\x7d", ⟨1, 30⟩⟩,
    ⟨.closeBrace, "\x7d", ⟨1, 32⟩⟩]
  let last : Token := ⟨.ending, "", ⟨1, 33⟩⟩
  let c : Tree.Expr := .binary .equal (.int 1) (.int 2)
  let p : Program := ⟨[⟨"main", [], ⟨1, 1⟩, some [.loop none c [] ⟨1, 15⟩]⟩]⟩
  have hts : tokenize (barring.1 ++ barring.2.1 ++ barring.2.2)
      = .ok (pre ++ (mid ++ body) ++ [last]) := by
    decide +kernel
  have hc : Grammar.IsExpr mid c :=
    .comparison (.sum (.primary (.number rfl rfl))) rfl (.primary (.number rfl rfl))
  have hcontext : Grammar.Context pre body (.expr c) (.items p.items) :=
    .inside (.inside (.inside (.inside (.inside (.inside (.here _)
      (.loopCondition rfl (.mk rfl .nil rfl))) (.statement .nil)) (.block rfl rfl)) .body)
      (.item rfl rfl rfl .none rfl)) (.firstItem .nil)
  have hholds : Part.Holds (.items p.items) pre mid body c := ⟨.expr c, rfl, hc, hcontext⟩
  have hitems : Grammar.IsItems (pre ++ (mid ++ body)) p.items := hholds.is
  have hp : Program.ofTokens (pre ++ (mid ++ body) ++ [last]) = .ok p :=
    ofTokens_of_isItems hitems rfl ⟨last, rfl, rfl⟩
  obtain ⟨hsame, htext⟩ := (parens_immaterial hp).2 pre mid (body ++ [last]) c
    ⟨rfl, body, last, [], rfl, rfl, hholds⟩
  obtain ⟨us, hus, hcontent⟩ := htext barring.1 barring.2.1 barring.2.2 hts
    (by rintro _ ⟨⟩; decide +kernel) (by rintro _ ⟨⟩; decide +kernel)
  obtain ⟨m, hm⟩ : ∃ m, compileVerified lastVerified
      (barring.1 ++ barring.2.1 ++ barring.2.2) = .ok m := exists_ok (by decide +kernel)
  rcases (hsame us hcontent).2 lastVerified _ _ hts hus with ⟨m', h, h'⟩ | ⟨e, -, h, -, -⟩
  · exact ⟨m', h, h'⟩
  · rw [hm] at h
    cases h

end Looplet
