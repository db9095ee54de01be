import Looplet.Proofs.Tree.Agreement
import Looplet.Proofs.Tree.Completeness

/-!
# The language that is read

A list of tokens that ends in an ending token is read as a program exactly if the tokens before the
first ending one are a program in the grammar, and the grammar gives no list two trees. What comes
after the first ending token decides nothing.
-/

namespace Looplet

open Looplet.Tree (Stmt Item)

namespace Grammar

/-! ## No derivation holds an ending token -/

/-- The token does not end the input. -/
def Inner (t : Token) : Prop :=
  t.kind ≠ .ending

theorem inner_of_kind {t : Token} {k : Token.Kind} (ht : t.kind = k) (hk : k ≠ .ending) :
    Inner t := by
  rwa [Inner, ht]

theorem IsExpr.inner {ts : List Token} {e : Tree.Expr} (h : IsExpr ts e) : ∀ t ∈ ts, Inner t :=
  fun t ht => (h.inExpr t ht).2.2

theorem inner_of_jump? {k : Token} {j : Jump} (hk : jump? k.kind = some j) : Inner k := by
  intro h
  rw [h] at hk
  cases hk

mutual

theorem IsStatement.inner : {ts : List Token} → {s : Stmt} → IsStatement ts s →
    ∀ t ∈ ts, Inner t
  | _, _, .assign hx ha he hs => by
    rw [List.forall_mem_cons, List.forall_mem_cons, List.forall_mem_append,
      List.forall_mem_singleton]
    exact ⟨inner_of_kind hx (by decide), inner_of_kind ha (by decide), he.inner,
      inner_of_kind hs (by decide)⟩
  | _, _, .ifThen hi hc ht => by
    rw [List.forall_mem_cons, List.forall_mem_append]
    exact ⟨inner_of_kind hi (by decide), hc.inner, ht.inner⟩
  | _, _, .ifElse hi hc ht hl he => by
    rw [List.forall_mem_cons, List.forall_mem_append, List.forall_mem_append,
      List.forall_mem_cons]
    exact ⟨inner_of_kind hi (by decide), hc.inner, ht.inner, inner_of_kind hl (by decide),
      he.inner⟩
  | _, _, .loop hw hc hb => by
    rw [List.forall_mem_cons, List.forall_mem_append]
    exact ⟨inner_of_kind hw (by decide), hc.inner, hb.inner⟩
  | _, _, .labelled hx hk hw hc hb => by
    rw [List.forall_mem_cons, List.forall_mem_cons, List.forall_mem_cons, List.forall_mem_append]
    exact ⟨inner_of_kind hx (by decide), inner_of_kind hk (by decide),
      inner_of_kind hw (by decide), hc.inner, hb.inner⟩
  | _, _, .jump hk hs => by
    rw [List.forall_mem_cons, List.forall_mem_singleton]
    exact ⟨inner_of_jump? hk, inner_of_kind hs (by decide)⟩
  | _, _, .jumpTo hk hx hs => by
    rw [List.forall_mem_cons, List.forall_mem_cons, List.forall_mem_singleton]
    exact ⟨inner_of_jump? hk, inner_of_kind hx (by decide), inner_of_kind hs (by decide)⟩
  | _, _, .expr he hs => by
    rw [List.forall_mem_append, List.forall_mem_singleton]
    exact ⟨he.inner, inner_of_kind hs (by decide)⟩

theorem IsBlock.inner : {ts : List Token} → {b : List Stmt} → IsBlock ts b → ∀ t ∈ ts, Inner t
  | _, _, .mk ho h hc => by
    rw [List.forall_mem_cons, List.forall_mem_append, List.forall_mem_singleton]
    exact ⟨inner_of_kind ho (by decide), h.inner, inner_of_kind hc (by decide)⟩

theorem IsStatements.inner : {ts : List Token} → {ss : List Stmt} → IsStatements ts ss →
    ∀ t ∈ ts, Inner t
  | _, _, .nil => List.forall_mem_nil _
  | _, _, .cons h hs => by
    rw [List.forall_mem_append]
    exact ⟨h.inner, hs.inner⟩

end

theorem IsNames.inner {ts : List Token} {xs : List String} (h : IsNames ts xs) :
    ∀ t ∈ ts, Inner t := by
  induction h with
  | one hx =>
    rw [List.forall_mem_singleton]
    exact inner_of_kind hx (by decide)
  | more hx hc _ ih =>
    rw [List.forall_mem_cons, List.forall_mem_cons]
    exact ⟨inner_of_kind hx (by decide), inner_of_kind hc (by decide), ih⟩

theorem IsParams.inner {ts : List Token} {xs : List String} (h : IsParams ts xs) :
    ∀ t ∈ ts, Inner t := by
  cases h with
  | none => exact List.forall_mem_nil _
  | some h => exact h.inner

theorem IsBody.inner {ts : List Token} {b : Option (List Stmt)} (h : IsBody ts b) :
    ∀ t ∈ ts, Inner t := by
  cases h with
  | none hs =>
    rw [List.forall_mem_singleton]
    exact inner_of_kind hs (by decide)
  | some h => exact h.inner

theorem IsItems.inner {ts : List Token} {is : List Item} (h : IsItems ts is) :
    ∀ t ∈ ts, Inner t := by
  induction h with
  | nil => exact List.forall_mem_nil _
  | cons hi _ ih =>
    cases hi with
    | mk hf hx ho hp hc hb =>
      simp only [List.forall_mem_append, List.forall_mem_cons]
      exact ⟨⟨inner_of_kind hf (by decide), inner_of_kind hx (by decide),
        inner_of_kind ho (by decide), hp.inner, inner_of_kind hc (by decide), hb.inner⟩, ih⟩

/-- The grammar gives a list of tokens one tree at most. -/
theorem IsProgram.unique {ts : List Token} {p q : Program} (hp : IsProgram ts p)
    (hq : IsProgram ts q) : p = q := by
  have hps : Parser.items (ts ++ []) = .ok p.items := Parser.items_of_isItems hp nofun
  have hqs : Parser.items (ts ++ []) = .ok q.items := Parser.items_of_isItems hq nofun
  rw [hps] at hqs
  cases p
  cases q
  cases hqs
  rfl

end Grammar

namespace Parser

open Grammar

/-! ## The first ending token -/

/-- The tokens end in an ending token. -/
def Terminated (ts : List Token) : Prop :=
  ∃ last, ts.getLast? = some last ∧ last.kind = .ending

theorem exists_first_ending {ts : List Token} (h : Terminated ts) :
    ∃ before e after, ts = before ++ e :: after ∧ (∀ t ∈ before, t.kind ≠ .ending) ∧
      e.kind = .ending := by
  obtain ⟨last, hlast, hk⟩ := h
  have hsome : (ts.find? fun t => t.kind = .ending).isSome := by
    rw [List.find?_isSome]
    exact ⟨last, List.mem_of_getLast? hlast, by simpa using hk⟩
  obtain ⟨e, he⟩ := Option.isSome_iff_exists.mp hsome
  obtain ⟨hek, before, after, hts, hbefore⟩ := List.find?_eq_some_iff_append.mp he
  exact ⟨before, e, after, hts, by simpa using hbefore, by simpa using hek⟩

/-- Where a list has its first ending token does not depend on how it is split there. -/
theorem eq_of_first_ending {us vs rest : List Token} {e : Token} {after : List Token}
    (h : us ++ rest = vs ++ e :: after) (hus : ∀ t ∈ us, t.kind ≠ .ending)
    (hrest : ∀ t ∈ rest.head?, t.kind = .ending) (hvs : ∀ t ∈ vs, t.kind ≠ .ending)
    (he : e.kind = .ending) : us = vs := by
  have hleft : (us ++ rest).takeWhile (fun t => t.kind ≠ .ending) = us := by
    rw [List.takeWhile_append_of_pos (by simpa using hus)]
    cases rest with
    | nil => simp
    | cons r rest => simp [hrest r rfl]
  have hright : (vs ++ e :: after).takeWhile (fun t => t.kind ≠ .ending) = vs := by
    rw [List.takeWhile_append_of_pos (by simpa using hvs)]
    simp [he]
  rw [← hleft, h, hright]

/-- The items of a list are those in the grammar for the tokens before the first ending one. -/
theorem items_eq_ok {before after : List Token} {e : Token} {is : List Item}
    (hbefore : ∀ t ∈ before, t.kind ≠ .ending) (he : e.kind = .ending) :
    items (before ++ e :: after) = .ok is ↔ IsItems before is := by
  constructor
  · intro h
    obtain ⟨us, rest, hts, his, hrest⟩ := items_sound _ h
    rwa [← eq_of_first_ending hts.symm his.inner hrest hbefore he]
  · intro h
    refine items_of_isItems h ?_
    rintro _ ⟨⟩
    exact he

/-! ## Programs -/

theorem ofTokens_eq_ok {ts : List Token} (h : Terminated ts) {p : Program} :
    Program.ofTokens ts = .ok p ↔ items ts = .ok p.items := by
  obtain ⟨last, hlast, hk⟩ := h
  simp only [Program.ofTokens, hlast, if_pos hk]
  cases items ts with
  | error m => exact ⟨nofun, nofun⟩
  | ok is =>
    constructor
    · rintro ⟨⟩
      rfl
    · rintro ⟨⟩
      rfl

/-- What tokens are read as moves with them. -/
theorem ofTokens_moved {f : Position → Position} {ts us : List Token} (hts : Terminated ts)
    (hus : Terminated us) (h : Agree f ts us) :
    Program.ofTokens us = mapBoth (Error.moved f) (Program.moved f) (Program.ofTokens ts) := by
  obtain ⟨last, hlast, hk⟩ := hts
  obtain ⟨last', hlast', hk'⟩ := hus
  obtain ⟨hok, herror⟩ := items_alike ts us h
  simp only [Program.ofTokens, hlast, hlast', if_pos hk, if_pos hk']
  cases his : items ts with
  | ok is =>
    rw [hok is his]
    rfl
  | error m =>
    obtain ⟨hsome, hus⟩ := herror m his
    obtain ⟨t, ht⟩ := Option.isSome_iff_exists.mp hsome
    simp [hus, Mismatch.moved, ht, mapBoth, Error.moved]

theorem ofTokens_congr {ts us : List Token} (hts : Terminated ts) (hus : Terminated us)
    (h : Agree id ts us) : Program.ofTokens us = Program.ofTokens ts := by
  rw [ofTokens_moved hts hus h]
  cases Program.ofTokens ts with
  | ok p => exact congrArg Except.ok p.moved_id
  | error e => exact congrArg Except.error e.moved_id

theorem ofTokens_of_not_terminated {ts : List Token} (h : ¬Terminated ts) :
    Program.ofTokens ts = .error .unterminated := by
  rw [Program.ofTokens]
  cases hlast : ts.getLast? with
  | none => rfl
  | some last => exact if_neg fun hk => h ⟨last, hlast, hk⟩

/-- A list that ends in an ending token is read as a program exactly if the tokens before the first
ending one are that program in the grammar, whatever comes after it; any other list is unterminated;
and no list is two programs. -/
theorem ofTokens_language (ts : List Token) :
    (Terminated ts →
      ∃ before e after, ts = before ++ e :: after ∧ (∀ t ∈ before, t.kind ≠ .ending) ∧
        e.kind = .ending ∧ (∀ p, Program.ofTokens ts = .ok p ↔ IsProgram before p) ∧
        ∀ after', Terminated (before ++ e :: after') →
          Program.ofTokens (before ++ e :: after') = Program.ofTokens ts) ∧
    (¬Terminated ts → Program.ofTokens ts = .error .unterminated) ∧
    ∀ p q, IsProgram ts p → IsProgram ts q → p = q := by
  refine ⟨fun hts => ?_, ofTokens_of_not_terminated, fun _ _ => IsProgram.unique⟩
  obtain ⟨before, e, after, rfl, hbefore, he⟩ := exists_first_ending hts
  refine ⟨before, e, after, rfl, hbefore, he, fun p => ?_, fun after' hafter' => ?_⟩
  · rw [ofTokens_eq_ok hts, items_eq_ok hbefore he, IsProgram]
  · exact ofTokens_congr hts hafter' (.of_append before he after after')

/-- The tokens of a declaration. -/
def declared : List Token :=
  [⟨.funcWord, "func", ⟨1, 1⟩⟩, ⟨.name, "f", ⟨1, 6⟩⟩, ⟨.openParen, "(", ⟨1, 7⟩⟩,
    ⟨.closeParen, ")", ⟨1, 8⟩⟩, ⟨.semicolon, ";", ⟨1, 9⟩⟩]

theorem isProgram_declared : IsProgram declared ⟨[⟨"f", [], ⟨1, 1⟩, none⟩]⟩ :=
  .cons (.mk rfl rfl rfl .none rfl (.none rfl)) .nil

/-- A declaration, and a sign between two ending tokens. -/
def goingOn : List Token :=
  declared ++ .endingAt ⟨1, 10⟩ :: [⟨.plus, "+", ⟨1, 11⟩⟩, .endingAt ⟨1, 12⟩]

theorem goingOn_declares :
    Program.ofTokens goingOn = .ok ⟨[⟨"f", [], ⟨1, 1⟩, none⟩]⟩ ∧
      Program.ofTokens declared = .error .unterminated := by
  have hterminated : Terminated goingOn := ⟨.endingAt ⟨1, 12⟩, rfl, rfl⟩
  have hbare : ¬Terminated declared := by
    rintro ⟨last, hlast, hk⟩
    cases hlast
    cases hk
  obtain ⟨before, e, after, hts, hbefore, he, hread, -⟩ :=
    (ofTokens_language goingOn).1 hterminated
  have hsame : declared = before :=
    eq_of_first_ending hts (by decide) (by rintro _ ⟨⟩; rfl) hbefore he
  refine ⟨(hread _).mpr ?_, (ofTokens_language declared).2.1 hbare⟩
  rw [← hsame]
  exact isProgram_declared

end Parser

end Looplet
