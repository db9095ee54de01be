import Looplet.Proofs.Layout

/-!
# Texts put together

Two texts with a line feed between them are read one after the other. A line feed ends every token
and every comment (`Skim.append_line`), and what stops the first text stops both
(`Stops.append_line`). The second text is read as it is alone, with its positions moved down by the
lines before it:

    tokenize (a ++ "\n" ++ b) = .ok (body ++ us.map (moved down))
      if  tokenize a = .ok (body ++ [ending])  and  tokenize b = .ok us
-/

namespace Looplet

/-! ## Positions on later lines -/

namespace Position

/-- The position some lines further down. -/
def down (n : Nat) (p : Position) : Position :=
  ⟨p.line + n, p.column⟩

theorem step_down (n : Nat) (p : Position) (c : Char) :
    (p.down n).step c = (p.step c).down n := by
  unfold step down
  split
  · rw [Nat.add_right_comm]
  · rfl

theorem advance_down (n : Nat) (p : Position) (cs : List Char) :
    (p.down n).advance cs = (p.advance cs).down n := by
  induction cs generalizing p with
  | nil => rfl
  | cons c cs ih => rw [advance_cons, advance_cons, step_down, ih]

theorem line_advance (p : Position) (cs : List Char) :
    (p.advance cs).line = p.line + cs.count '\n' := by
  induction cs generalizing p with
  | nil => rfl
  | cons c cs ih =>
    rw [advance_cons, ih, List.count_cons, step]
    by_cases hc : c = '\n'
    · simp [hc, Nat.add_assoc, Nat.add_comm 1]
    · simp [hc]

/-- After a text and a line feed positions start on the line after those of the text. -/
theorem step_advance_start (cs : List Char) :
    (start.advance cs).step '\n' = start.down (cs.count '\n' + 1) := by
  rw [step, if_pos rfl, line_advance, Nat.add_assoc]
  rfl

end Position

/-- The error at another position. -/
def Lexer.Error.moved (f : Position → Position) (e : Error) : Error :=
  ⟨f e.position, e.fault⟩

/-! ## Reading on after a line feed -/

/-- Only blanks hold a line feed. -/
theorem Piece.Formed.isBlank_of_line {q : Piece} (h : q.Formed) (hn : '\n' ∈ q.text) :
    ∀ c ∈ q.text.head?, Text.isBlank c = true := by
  cases hk : q.kind? with
  | some k => exact absurd hn (h.line_not_mem hk)
  | none =>
    cases h with
    | blanks hne hbs => exact fun c hc => hbs c (List.mem_of_mem_head? hc)
    | comment hcs => exact absurd hn (by simp [hcs])
    | _ => cases hk

/-- A token that ends where a text does ends before a line feed, too. -/
theorem Piece.EndsBefore.append_line {q : Piece} (hq : q.Formed) {k : Token.Kind}
    (hk : q.kind? = some k) {cs : List Char} (h : q.EndsBefore cs) (more : List Char) :
    q.EndsBefore (cs ++ '\n' :: more) := by
  cases cs with
  | cons c cs => exact h
  | nil =>
    rintro first hfirst _ ⟨⟩
    exact hq.goesOn_eq_false hk hfirst (.inl (by decide))

/-- A line feed and what comes after it do not change how a text is read. -/
theorem Skim.append_line {p : Position} {cs : List Char} {ts : List Token} {rest : List Char}
    (h : Skim p cs ts rest) (more : List Char) :
    Skim p (cs ++ '\n' :: more) ts (rest ++ '\n' :: more) := by
  induction h with
  | nil => exact .nil
  | blank hc _ ih => exact .blank hc ih
  | @comment p cs after ts rest hcs hafter _ ih =>
    have hafter' : ∀ c ∈ (after ++ '\n' :: more).head?, c = '\n' := by
      cases after with
      | nil => simp
      | cons c after => exact hafter
    simpa using Skim.comment hcs hafter' ih
  | @token p q k cs ts rest hq hk hfits hends _ ih =>
    rw [List.append_assoc]
    exact .token hq hk hfits (hends.append_line hq hk more) ih

/-- Where a text stops it stops before a line feed, too. -/
theorem Stops.append_line {cs : List Char} {fault : Lexer.Fault} (h : Stops cs fault)
    (more : List Char) : Stops (cs ++ '\n' :: more) fault := by
  cases h with
  | @unrecognized c cs h =>
    rw [List.cons_append]
    refine .unrecognized fun q hq hfront => ?_
    rw [← List.cons_append] at hfront
    rcases List.prefix_or_prefix_of_prefix hfront (List.prefix_append (c :: cs) _) with
      hshort | ⟨after, hafter⟩
    · exact h q hq hshort
    · cases after with
      | nil => exact h q hq (by rw [← hafter, List.append_nil])
      | cons d after =>
        -- a longer piece holds the line feed, so it starts with a blank, which is a piece alone
        rw [← hafter, List.prefix_append_right_inj, List.cons_prefix_cons] at hfront
        obtain rfl := hfront.1
        have hc := hq.isBlank_of_line (by rw [← hafter]; simp) c (by rw [← hafter]; rfl)
        exact h ⟨none, [c]⟩ (.blanks (by simp) (by simpa using hc)) (by simp)
  | @oversized q cs hq hfits =>
    obtain ⟨after, rfl⟩ := hq.front
    have hnumber : q.kind? = some .number := by_contra fun hk => hfits (Piece.fits_of_ne hk)
    have hends := (Piece.isLongest_iff hq.formed).mp hq
    refine .oversized ?_ hfits
    rw [List.append_assoc]
    exact (Piece.isLongest_iff hq.formed).mpr (hends.append_line hq.formed hnumber more)

/-- Further down the same is read. -/
theorem Skim.down {p : Position} {cs : List Char} {ts : List Token} {rest : List Char}
    (h : Skim p cs ts rest) (n : Nat) :
    Skim (p.down n) cs (ts.map (Token.moved (Position.down n))) rest := by
  induction h with
  | nil => exact .nil
  | blank hc _ ih =>
    refine .blank hc ?_
    rw [Position.step_down]
    exact ih
  | comment hcs hmore _ ih =>
    refine .comment hcs hmore ?_
    rw [Position.advance_down]
    exact ih
  | token hq hk hfits hends _ ih =>
    refine .token hq hk hfits hends ?_
    rw [Position.advance_down]
    exact ih

/-! ## Two texts -/

/-- Where the positions of a text are if it starts on the line after another text. -/
def Position.below (text : String) : Position → Position :=
  down (text.toList.count '\n' + 1)

theorem toList_joined (a b : String) :
    (a ++ "\n" ++ b).toList = a.toList ++ '\n' :: b.toList := by
  simp

theorem Position.advance_joined (a : String) (cs : List Char) :
    start.advance (a.toList ++ '\n' :: cs) = below a (start.advance cs) := by
  rw [advance_append, advance_cons, step_advance_start, advance_down, below]

variable {a b : String}

theorem Skim.joined {ts us : List Token} {rest : List Char} (ha : Skim .start a.toList ts [])
    (hb : Skim .start b.toList us rest) :
    Skim .start (a ++ "\n" ++ b).toList (ts ++ us.map (Token.moved (Position.below a))) rest := by
  rw [toList_joined]
  refine (ha.append_line b.toList).trans fun front hfront => ?_
  obtain rfl : a.toList = front := List.append_cancel_right hfront
  refine .blank (by decide) ?_
  rw [Position.step_advance_start]
  exact hb.down _

theorem tokenize_of_error_left {e : Lexer.Error} (h : tokenize a = .error e) :
    tokenize (a ++ "\n" ++ b) = .error e := by
  obtain ⟨before, rest, us, htext, hskim, hposition, hs⟩ := tokenize_eq_error.mp h
  refine tokenize_eq_error.mpr ⟨before, rest ++ '\n' :: b.toList, us, ?_, ?_, hposition,
    hs.append_line _⟩
  · rw [toList_joined, htext, List.append_assoc]
  · rw [toList_joined]
    exact hskim.append_line _

theorem tokenize_of_error_right {ts : List Token} {e : Lexer.Error} (ha : tokenize a = .ok ts)
    (hb : tokenize b = .error e) :
    tokenize (a ++ "\n" ++ b) = .error (e.moved (Position.below a)) := by
  obtain ⟨us, hus, -⟩ := tokenize_eq_ok.mp ha
  obtain ⟨before, rest, vs, htext, hvs, hposition, hs⟩ := tokenize_eq_error.mp hb
  refine tokenize_eq_error.mpr ⟨a.toList ++ '\n' :: before, rest, _, ?_, hus.joined hvs, ?_, hs⟩
  · rw [toList_joined, htext, List.append_assoc, List.cons_append]
  · rw [Position.advance_joined, Lexer.Error.moved, hposition]

theorem tokenize_of_ok {ts us : List Token} (ha : tokenize a = .ok ts) (hb : tokenize b = .ok us) :
    ∃ body e, ts = body ++ [e] ∧ (∀ t ∈ body, t.kind ≠ .ending) ∧ e.kind = .ending ∧
      tokenize (a ++ "\n" ++ b) = .ok (body ++ us.map (Token.moved (Position.below a))) := by
  obtain ⟨body, e, rfl, hbody, he⟩ := exists_ending_of_tokenize ha
  refine ⟨body, e, rfl, hbody, he, ?_⟩
  obtain ⟨vs, hvs, hts⟩ := tokenize_eq_ok.mp ha
  obtain ⟨rfl, -⟩ := List.append_inj' hts rfl
  obtain ⟨ws, hws, rfl⟩ := tokenize_eq_ok.mp hb
  refine tokenize_eq_ok.mpr ⟨_, hvs.joined hws, ?_⟩
  rw [List.map_append, List.append_assoc, toList_joined, Position.advance_joined]
  rfl

/-! ## Two programs -/

theorem Grammar.IsItems.append {ts us : List Token} {is js : List Tree.Item} (h : IsItems ts is)
    (h' : IsItems us js) : IsItems (ts ++ us) (is ++ js) := by
  induction h with
  | nil => exact h'
  | cons hi _ ih =>
    rw [List.append_assoc]
    exact .cons hi ih

/-- The tokens of a program before the ending one are its items. -/
theorem ofTokens_body {body : List Token} {e : Token} (hbody : ∀ t ∈ body, t.kind ≠ .ending)
    (he : e.kind = .ending) {p : Program} :
    Program.ofTokens (body ++ [e]) = .ok p ↔ Grammar.IsItems body p.items := by
  have hterminated : Parser.Terminated (body ++ [e]) := ⟨e, by simp, he⟩
  rw [Parser.ofTokens_eq_ok hterminated, Parser.items_eq_ok hbody he]

theorem parse_of_ok {p q : Program} (ha : parse a = .ok p) (hb : parse b = .ok q) :
    parse (a ++ "\n" ++ b) = .ok ⟨p.items ++ (q.moved (Position.below a)).items⟩ := by
  obtain ⟨ts, hts, hp⟩ := parse_eq_ok.mp ha
  obtain ⟨us, hus, hq⟩ := parse_eq_ok.mp hb
  obtain ⟨body, e, rfl, hbody, he, htokens⟩ := tokenize_of_ok hts hus
  obtain ⟨body', e', rfl, hbody', he'⟩ := exists_ending_of_tokenize hus
  refine parse_eq_ok.mpr ⟨_, htokens, ?_⟩
  have hmoved := ofTokens_map_moved (f := Position.below a) hus
  rw [hq, List.map_append, List.map_singleton] at hmoved
  have hending : (e'.moved (Position.below a)).kind = .ending := he'
  have hmoved_body : ∀ t ∈ body'.map (Token.moved (Position.below a)), t.kind ≠ .ending := by
    simpa using hbody'
  rw [List.map_append, List.map_singleton, ← List.append_assoc]
  refine (ofTokens_body (List.forall_mem_append.mpr ⟨hbody, hmoved_body⟩) hending).mpr ?_
  exact ((ofTokens_body hbody he).mp hp).append ((ofTokens_body hmoved_body hending).mp hmoved)

/-- Texts joined by a line feed are read one after the other. If the first one has a fault, that is
the fault of both; if only the second one has, it is the fault of both, further down by the lines of
the first; otherwise the tokens are those of the first without its ending one, and then those of the
second, further down. If both are programs, together they are the program of all their items. -/
theorem tokenize_parse_joined (a b : String) :
    (∀ e, tokenize a = .error e → tokenize (a ++ "\n" ++ b) = .error e) ∧
    (∀ ts e, tokenize a = .ok ts → tokenize b = .error e →
      tokenize (a ++ "\n" ++ b) = .error (e.moved (Position.below a))) ∧
    (∀ ts us, tokenize a = .ok ts → tokenize b = .ok us →
      ∃ body e, ts = body ++ [e] ∧ (∀ t ∈ body, t.kind ≠ .ending) ∧ e.kind = .ending ∧
        tokenize (a ++ "\n" ++ b) = .ok (body ++ us.map (Token.moved (Position.below a)))) ∧
    ∀ p q, parse a = .ok p → parse b = .ok q →
      parse (a ++ "\n" ++ b) = .ok ⟨p.items ++ (q.moved (Position.below a)).items⟩ :=
  ⟨fun _ => tokenize_of_error_left, fun _ _ => tokenize_of_error_right,
    fun _ _ => tokenize_of_ok, fun _ _ => parse_of_ok⟩

/-- A declaration with a remark that no line feed ends. -/
def remarked : String := "func f(); // of\n// f"

/-- A text that starts with the second half of an arrow, and the first half of one. -/
def halves : String × String := ("func main() \x7b x <", "- 1; \x7d")

theorem remarked_halves_joined :
    (∃ p q, parse remarked = .ok p ∧ parse clashing = .ok q ∧
      parse (remarked ++ "\n" ++ clashing)
        = .ok ⟨p.items ++ (q.moved (Position.down 2)).items⟩) ∧
    tokenize (halves.1 ++ "\n" ++ halves.2) = .error ⟨⟨1, 17⟩, .unrecognized '<'⟩ ∧
    tokenize (remarked ++ "\n" ++ halves.2) = .error ⟨⟨3, 1⟩, .unrecognized '-'⟩ ∧
    ∃ ts us, tokenize remarked = .ok ts ∧ tokenize clashing = .ok us ∧
      tokenize (remarked ++ "\n" ++ clashing)
        = .ok (ts.dropLast ++ us.map (Token.moved (Position.down 2))) := by
  have hbelow : Position.below remarked = Position.down 2 := by
    have hlines : remarked.toList.count '\n' = 1 := by decide +kernel
    rw [Position.below, hlines]
  obtain ⟨p, hp⟩ : ∃ p, parse remarked = .ok p := exists_ok (by decide +kernel)
  obtain ⟨q, hq⟩ : ∃ q, parse clashing = .ok q := exists_ok (by decide +kernel)
  obtain ⟨ts, hts, -⟩ := parse_eq_ok.mp hp
  obtain ⟨us, hus, -⟩ := parse_eq_ok.mp hq
  have hleft : tokenize halves.1 = .error ⟨⟨1, 17⟩, .unrecognized '<'⟩ := by decide +kernel
  have hright : tokenize halves.2 = .error ⟨⟨1, 1⟩, .unrecognized '-'⟩ := by decide +kernel
  obtain ⟨-, herror, hok, hprogram⟩ := tokenize_parse_joined remarked clashing
  obtain ⟨body, e, rfl, -, -, htokens⟩ := hok ts us hts hus
  refine ⟨⟨p, q, hp, hq, hbelow ▸ hprogram p q hp hq⟩,
    (tokenize_parse_joined halves.1 halves.2).1 _ hleft, ?_, _, us, hts, hus, ?_⟩
  · have hdown := (tokenize_parse_joined remarked halves.2).2.1 _ _ hts hright
    rwa [hbelow] at hdown
  · rw [List.dropLast_concat, htokens, hbelow]

end Looplet
