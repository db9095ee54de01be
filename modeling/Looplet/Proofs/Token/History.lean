import Looplet.Proofs.Result
import Looplet.Proofs.Token.Cursor
import Looplet.Proofs.Token.Order
import Looplet.Token.Schedule

/-!
# The histories of lexers

A family of lexers answers a schedule of requests. The same is done here with cursors, each with its
history: what its ancestors had answered when they were copied, and then its own answers (`Reader`).
However the schedule goes, the cursors answer what the lexers do, they stay at the boundaries of
characters, and every history is the front of one sequence that the text sets
(`sequence_of_schedule`).

    items of the text     t₁ … tₙ last        tokens, then the ending token or an error
    a history             t₁ … tₖ             or  t₁ … tₙ last none … none
-/

namespace Looplet.Lexer

/-! ## Reading on -/

theorem items_of_next?_eq_none {l : Lexer} (h : l.next? = none) : l.items = [] := by
  rw [items]
  split
  · rfl
  · next hnext =>
    rw [h] at hnext
    cases hnext

theorem items_of_next?_eq_some {l l' : Lexer} {item : Except Error Token}
    (h : l.next? = some (item, l')) : l.items = item :: l'.items := by
  rw [items]
  split
  · next hnext =>
    rw [h] at hnext
    cases hnext
  · next hnext =>
    rw [h] at hnext
    cases hnext
    rfl

/-- What a lexer has answered so far, with nothing for every request after its last item. -/
abbrev History := List (Option (Except Error Token))

/-- The lexer `l` has answered `seen` when it has become `l'`: those are its first items, and those
of `l'` are the items after them. -/
structure Reads (l : Lexer) (seen : History) (l' : Lexer) : Prop where
  front : ∀ n < seen.length, seen[n]? = some l.items[n]?
  rest : ∀ n, l.items[seen.length + n]? = l'.items[n]?

namespace Reads

variable {l l' l'' : Lexer} {seen more : History}

theorem refl (l : Lexer) : Reads l [] l where
  front := nofun
  rest n := by rw [List.length_nil, Nat.zero_add]

theorem trans (h : Reads l seen l') (h' : Reads l' more l'') : Reads l (seen ++ more) l'' where
  front n hn := by
    by_cases hlt : n < seen.length
    · rw [List.getElem?_append_left hlt, h.front n hlt]
    · obtain ⟨k, rfl⟩ := Nat.exists_eq_add_of_le (Nat.le_of_not_lt hlt)
      rw [List.length_append, Nat.add_lt_add_iff_left] at hn
      rw [List.getElem?_append_right (Nat.le_add_right _ _), Nat.add_sub_cancel_left,
        h'.front k hn, h.rest k]
  rest n := by rw [List.length_append, Nat.add_assoc, h.rest, h'.rest]

theorem item {item : Except Error Token} (h : l.next? = some (item, l')) :
    Reads l [some item] l' where
  front n hn := by
    obtain rfl := Nat.lt_one_iff.mp hn
    rw [items_of_next?_eq_some h]
    rfl
  rest n := by
    rw [items_of_next?_eq_some h, List.length_singleton, Nat.add_comm, List.getElem?_cons_succ]

theorem ended (h : l.next? = none) : Reads l [none] l where
  front n hn := by
    obtain rfl := Nat.lt_one_iff.mp hn
    rw [items_of_next?_eq_none h]
    rfl
  rest n := by
    rw [items_of_next?_eq_none h]
    simp

/-- Reading all the items that remain ends with the answer that there are no more. -/
theorem drained (l : Lexer) :
    Reads l (l.items.map some ++ [none]) { l with done := true } where
  front n hn := by
    rw [List.length_append, List.length_map, List.length_singleton] at hn
    by_cases hlt : n < l.items.length
    · rw [List.getElem?_append_left (by rwa [List.length_map]), List.getElem?_map,
        List.getElem?_eq_getElem hlt]
      rfl
    · have hn : n = l.items.length := by omega
      rw [hn, List.getElem?_append_right (by rw [List.length_map])]
      simp
  rest n := by
    rw [items_done, List.getElem?_nil, List.getElem?_eq_none]
    rw [List.length_append, List.length_map, List.length_singleton]
    omega

end Reads

/-! ## Readers -/

/-- A cursor with its history. -/
structure Reader where
  cursor : Cursor
  seen : History

/-- Readers of one text, and which of them is current. -/
structure Readers where
  readers : List Reader
  current : Nat

/-- All items that remain, read one by one until there are no more. -/
def Cursor.drain (src : String) (budget : Nat) :
    Nat → Cursor → Option (List (Except Error Token) × Cursor)
  | 0, _ => none
  | n + 1, c =>
    match c.next src budget with
    | .answer none c' => some ([], c')
    | .answer (some item) c' => (drain src budget n c').map fun p => (item :: p.1, p.2)
    | _ => none

namespace Readers

/-- One reader at the start of a text, which has answered nothing. -/
def start : Readers := ⟨[⟨Cursor.start, []⟩], 0⟩

/-- Answers one request, as a family of lexers does, unless a cursor gives no answer. The answers
become part of the history, and a copy starts with the history of the reader it is a copy of. -/
def step (src : String) (budget : Nat) (rs : Readers) : Request → Option (Reply × Readers)
  | .next =>
    match rs.readers[rs.current]? with
    | none => some (.item none, rs)
    | some r =>
      match r.cursor.next src budget with
      | .answer item? c =>
        some (.item item?,
          { rs with readers := rs.readers.set rs.current ⟨c, r.seen ++ [item?]⟩ })
      | _ => none
  | .rest =>
    match rs.readers[rs.current]? with
    | none => some (.items [], rs)
    | some r =>
      (r.cursor.drain src budget budget).map fun p =>
        (.items p.1, { rs with
          readers := rs.readers.set rs.current ⟨p.2, r.seen ++ (p.1.map some ++ [none])⟩ })
  | .fork =>
    some (.index rs.readers.length,
      { rs with readers := rs.readers ++ rs.readers[rs.current]?.toList })
  | .select i => some (.index i, { rs with current := i })

/-- Answers a schedule of requests. -/
def run (src : String) (budget : Nat) (rs : Readers) :
    List Request → Option (List Reply × Readers)
  | [] => some ([], rs)
  | q :: qs => do
    let (reply, rs) ← rs.step src budget q
    let (replies, rs) ← run src budget rs qs
    return (reply :: replies, rs)

end Readers

/-! ## The invariant -/

/-- The cursor follows the lexer, and the answers in the history lead to the lexer from the start of
the text. -/
structure Reader.Tracks (src : String) (r : Reader) (l : Lexer) : Prop where
  follows : r.cursor.Follows src l
  reads : Reads (Lexer.ofText src.toList) r.seen l

/-- The readers track the lexers of a family one by one. -/
structure Readers.Track (src : String) (rs : Readers) (f : Family) : Prop where
  current_eq : rs.current = f.current
  readers : List.Forall₂ (Reader.Tracks src) rs.readers f.lexers

variable {src : String} {budget : Nat}

/-- Reading all that remains takes one item after the other from the cursor. -/
theorem Cursor.Follows.drain {c : Cursor} {l : Lexer} (h : c.Follows src l)
    (hbudget : src.length < budget) {n : Nat} (hn : l.size < n) :
    ∃ c', c.drain src budget n = some (l.items, c') ∧ c'.Follows src { l with done := true } := by
  induction n generalizing c l with
  | zero => exact absurd hn (Nat.not_lt_zero _)
  | succ n ih =>
    have hanswer := h.next hbudget
    cases hnext : l.next? with
    | none =>
      have hl : l.done = true := by
        by_contra hne
        rw [next?, if_neg hne] at hnext
        cases hnext
      rw [hnext] at hanswer
      rw [Cursor.drain, hanswer, items_of_next?_eq_none hnext]
      exact ⟨c, rfl, h.of_done hl rfl⟩
    | some next =>
      obtain ⟨item, l'⟩ := next
      rw [hnext] at hanswer
      obtain ⟨c', hc, hfollows⟩ := hanswer
      have hsize := size_next? hnext
      obtain ⟨c'', hdrain, hfollows'⟩ := ih hfollows (by omega)
      rw [Cursor.drain, hc, items_of_next?_eq_some hnext]
      refine ⟨c'', ?_, hfollows'.of_done rfl rfl⟩
      simp only [hdrain, Option.map_some]

/-- Changing one reader and the lexer that it tracks. -/
theorem forall₂_set {R : Reader → Lexer → Prop} {rs : List Reader} {ls : List Lexer}
    (h : List.Forall₂ R rs ls) (i : Nat) {r : Reader} {l : Lexer} (hr : R r l) :
    List.Forall₂ R (rs.set i r) (ls.set i l) := by
  induction h generalizing i with
  | nil => exact .nil
  | cons hfirst hrest ih =>
    cases i with
    | zero => exact .cons hr hrest
    | succ i => exact .cons hfirst (ih i)

namespace Readers.Track

variable {rs : Readers} {f : Family}

theorem start (src : String) : Readers.start.Track src (Family.ofText src.toList) :=
  ⟨rfl, .cons ⟨Cursor.follows_start src, .refl _⟩ .nil⟩

/-- The current reader tracks the current lexer, or there is neither. -/
theorem current (h : rs.Track src f) :
    rs.readers[rs.current]? = none ∧ f.lexers[f.current]? = none ∨
      ∃ r l, rs.readers[rs.current]? = some r ∧ f.lexers[f.current]? = some l ∧
        r.Tracks src l := by
  have hlength := h.readers.length_eq
  rw [h.current_eq]
  by_cases hi : f.current < f.lexers.length
  · have hi' : f.current < rs.readers.length := by omega
    exact .inr ⟨_, _, List.getElem?_eq_getElem hi', List.getElem?_eq_getElem hi,
      h.readers.get hi' hi⟩
  · exact .inl ⟨List.getElem?_eq_none (by omega), List.getElem?_eq_none (by omega)⟩

/-- The current reader and the lexer that it tracks may read on. -/
theorem set (h : rs.Track src f) {r : Reader} {l : Lexer} (hr : r.Tracks src l) :
    Readers.Track src { rs with readers := rs.readers.set rs.current r }
      { f with lexers := f.lexers.set f.current l } :=
  ⟨h.current_eq, h.current_eq ▸ forall₂_set h.readers rs.current hr⟩

/-- The readers answer a request as the lexers do, and go on tracking them. -/
theorem step (h : rs.Track src f) (hbudget : src.length + 1 < budget) (q : Request) :
    ∃ rs', rs.step src budget q = some ((f.step q).1, rs') ∧ rs'.Track src (f.step q).2 := by
  have hcurrent := h.current
  have hlt : src.length < budget := Nat.lt_of_succ_lt hbudget
  cases q with
  | next =>
    rcases hcurrent with ⟨hr, hl⟩ | ⟨r, l, hr, hl, htracks⟩
    · simp only [Readers.step, Family.step, hr, hl]
      exact ⟨rs, rfl, h⟩
    have hanswer := htracks.follows.next hlt
    cases hnext : l.next? with
    | none =>
      have hset : f.lexers.set f.current l = f.lexers := by
        obtain ⟨hi, rfl⟩ := List.getElem?_eq_some_iff.mp hl
        exact List.set_getElem_self hi
      rw [hnext] at hanswer
      simp only [Readers.step, Family.step, hr, hl, hnext, hanswer]
      refine ⟨_, rfl, ?_⟩
      have hread : (⟨r.cursor, r.seen ++ [none]⟩ : Reader).Tracks src l :=
        ⟨htracks.follows, htracks.reads.trans (.ended hnext)⟩
      have hafter := h.set hread
      rwa [hset] at hafter
    | some next =>
      obtain ⟨item, l'⟩ := next
      rw [hnext] at hanswer
      obtain ⟨c, hc, hfollows⟩ := hanswer
      simp only [Readers.step, Family.step, hr, hl, hnext, hc]
      exact ⟨_, rfl, h.set ⟨hfollows, htracks.reads.trans (.item hnext)⟩⟩
  | rest =>
    rcases hcurrent with ⟨hr, hl⟩ | ⟨r, l, hr, hl, htracks⟩
    · simp only [Readers.step, Family.step, hr, hl]
      exact ⟨rs, rfl, h⟩
    have hsize := htracks.follows.size_le
    obtain ⟨c, hc, hfollows⟩ := htracks.follows.drain hlt (Nat.lt_of_le_of_lt hsize hbudget)
    simp only [Readers.step, Family.step, hr, hl, hc, Option.map_some]
    exact ⟨_, rfl, h.set ⟨hfollows, htracks.reads.trans (.drained l)⟩⟩
  | fork =>
    have hlength := h.readers.length_eq
    rcases hcurrent with ⟨hr, hl⟩ | ⟨r, l, hr, hl, htracks⟩
    · simp only [Readers.step, Family.step, hr, hl, Option.toList_none, List.append_nil, hlength]
      exact ⟨rs, rfl, h⟩
    · simp only [Readers.step, Family.step, hr, hl, Option.toList_some, hlength]
      exact ⟨_, rfl, h.current_eq, List.rel_append h.readers (.cons htracks .nil)⟩
  | select i => exact ⟨_, rfl, rfl, h.readers⟩

/-- So do they with a schedule of requests. -/
theorem run (h : rs.Track src f) (hbudget : src.length + 1 < budget) (qs : List Request) :
    ∃ rs' f', rs.run src budget qs = some (f.replies qs, rs') ∧ rs'.Track src f' := by
  induction qs generalizing rs f with
  | nil => exact ⟨rs, f, rfl, h⟩
  | cons q qs ih =>
    obtain ⟨rs', hstep, htrack⟩ := h.step hbudget q
    obtain ⟨rs'', f', hrun, htrack'⟩ := ih htrack
    refine ⟨rs'', f', ?_, htrack'⟩
    rw [Readers.run, hstep]
    simp [hrun, Family.replies]

end Readers.Track

/-! ## The sequence of a text -/

/-- The items of a text are tokens other than the one that ends it, and then one more item: that
token, or an error. -/
theorem exists_items (src : String) : ∃ (ts : List Token) (last : Except Error Token),
    (Lexer.ofText src.toList).items = ts.map .ok ++ [last] ∧ (∀ t ∈ ts, t.kind ≠ .ending) ∧
    (last = .ok (Token.endingAt (Position.start.advance src.toList)) ∨ ∃ e, last = .error e) := by
  obtain ⟨ps, rest, hm, hstop⟩ := exists_munch src.toList
  have htokens : ∀ t ∈ tokensAfter [] ps, t.kind ≠ .ending := by
    intro t ht
    obtain ⟨ps₁, p, ps₂, rfl, hk, -, -⟩ := mem_tokensAfter ht
    exact ne_ending_of_formed (hm.formed p (by simp)) hk
  have hitems := items_munch hm []
  rcases hstop with rfl | ⟨fault, hs⟩
  · have htext := hm.textOf_append
    rw [List.append_nil] at htext
    rw [items_nil, List.nil_append, htext] at hitems
    exact ⟨_, _, hitems, htokens, .inl rfl⟩
  · rw [items_stop hs] at hitems
    exact ⟨_, _, hitems, htokens, .inr ⟨_, rfl⟩⟩

/-- Cursors over a text answer every schedule of requests, and as the lexers do: each of them always
stands at the boundary of a character, every piece that it may take has characters, and so a budget
of pieces that only the text sets is enough for every item. Every history is the front of a sequence
that the text sets too: tokens other than the one that ends it, then that token or an error, and
then nothing. -/
theorem sequence_of_schedule (src : String) :
    ∃ (ts : List Token) (last : Except Error Token),
      (∀ t ∈ ts, t.kind ≠ .ending) ∧
      (last = .ok (Token.endingAt (Position.start.advance src.toList)) ∨ ∃ e, last = .error e) ∧
      (∀ cs piece, Lexeme.first? cs = some piece → piece.text ≠ []) ∧
      ∀ budget, src.length + 1 < budget → ∀ qs : List Request, ∃ rs,
        Readers.start.run src budget qs = some ((Family.ofText src.toList).replies qs, rs) ∧
        ∀ r ∈ rs.readers, r.cursor.Placed src ∧
          ∀ n < r.seen.length, r.seen[n]? = some (ts.map .ok ++ [last])[n]? := by
  obtain ⟨ts, last, hitems, hts, hlast⟩ := exists_items src
  refine ⟨ts, last, hts, hlast, fun cs piece hp => ?_, fun budget hbudget qs => ?_⟩
  · exact List.ne_nil_of_length_pos (Lexeme.text_length_pos hp)
  · obtain ⟨rs, f, hrun, htrack⟩ := (Readers.Track.start src).run hbudget qs
    refine ⟨rs, hrun, fun r hr => ?_⟩
    obtain ⟨l, -, ht⟩ := exists_of_mem_left htrack.readers hr
    rw [← hitems]
    exact ⟨ht.follows.placed, ht.reads.front⟩

end Looplet.Lexer
