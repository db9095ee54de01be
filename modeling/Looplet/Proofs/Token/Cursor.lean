import Looplet.Proofs.Token.Munch

/-!
# Lexers by offset

A lexer holds what remains of its text. A `Cursor` holds the number of bytes before that instead,
and takes what remains out of the text before each piece. That goes wrong if the offset is within a
character (`Outcome.outside`), and nothing but a budget keeps it from taking pieces without an end
(`Outcome.unfinished`). Neither happens to a cursor that follows a lexer (`Follows.next`): every
piece has characters, so a budget of more pieces than there are characters is enough.

    src.toList = before ++ rest     cursor ⟨byteCount before, start.advance before, false⟩
                                    lexer  ⟨rest, start.advance before, false⟩
-/

namespace Looplet

/-! ## Offsets -/

/-- How many bytes characters take. -/
def byteCount (cs : List Char) : Nat :=
  (cs.map Char.utf8Size).sum

@[simp] theorem byteCount_nil : byteCount [] = 0 := rfl

@[simp] theorem byteCount_cons (c : Char) (cs : List Char) :
    byteCount (c :: cs) = c.utf8Size + byteCount cs :=
  List.sum_cons

@[simp] theorem byteCount_append (xs ys : List Char) :
    byteCount (xs ++ ys) = byteCount xs + byteCount ys := by
  simp [byteCount]

theorem utf8ByteSize_ofList (cs : List Char) : (String.ofList cs).utf8ByteSize = byteCount cs := by
  induction cs with
  | nil => rfl
  | cons c cs ih =>
    rw [String.ofList_cons, String.utf8ByteSize_append, String.utf8ByteSize_singleton, ih,
      byteCount_cons]

theorem utf8ByteSize_eq (s : String) : s.utf8ByteSize = byteCount s.toList := by
  rw [← utf8ByteSize_ofList, String.ofList_toList]

/-- The characters from an offset on; none if the offset is within a character or after the end. -/
def charsFrom? : List Char → Nat → Option (List Char)
  | cs, 0 => some cs
  | [], _ + 1 => none
  | c :: cs, n + 1 => if c.utf8Size ≤ n + 1 then charsFrom? cs (n + 1 - c.utf8Size) else none

theorem charsFrom?_zero (cs : List Char) : charsFrom? cs 0 = some cs := by
  cases cs <;> rfl

theorem charsFrom?_append (before rest : List Char) :
    charsFrom? (before ++ rest) (byteCount before) = some rest := by
  induction before with
  | nil => exact charsFrom?_zero rest
  | cons c before ih =>
    obtain ⟨n, hn⟩ := Nat.exists_eq_succ_of_ne_zero (Nat.ne_of_gt c.utf8Size_pos)
    have hsize : byteCount (c :: before) = (n + byteCount before) + 1 := by
      rw [byteCount_cons]
      omega
    rw [hsize, List.cons_append, charsFrom?, if_pos (by omega)]
    rwa [show n + byteCount before + 1 - c.utf8Size = byteCount before by omega]

theorem charsFrom?_eq_some_iff {cs rest : List Char} {n : Nat} :
    charsFrom? cs n = some rest ↔ ∃ before, cs = before ++ rest ∧ n = byteCount before := by
  constructor
  · intro h
    induction cs generalizing n with
    | nil =>
      cases n with
      | zero => exact ⟨[], (Option.some.inj h), rfl⟩
      | succ n => cases h
    | cons c cs ih =>
      cases n with
      | zero => exact ⟨[], (Option.some.inj h), rfl⟩
      | succ n =>
        rw [charsFrom?, Option.ite_none_right_eq_some] at h
        obtain ⟨before, rfl, hn⟩ := ih h.2
        refine ⟨c :: before, rfl, ?_⟩
        rw [byteCount_cons]
        omega
  · rintro ⟨before, rfl, rfl⟩
    exact charsFrom?_append before rest

/-- An offset has characters from it on exactly if it is the boundary of a character. -/
theorem isSome_charsFrom? {s : String} {n : Nat} :
    (charsFrom? s.toList n).isSome = true ↔ (⟨n⟩ : String.Pos.Raw).IsValid s := by
  rw [Option.isSome_iff_exists, String.Pos.Raw.isValid_iff_exists_append]
  constructor
  · rintro ⟨rest, h⟩
    obtain ⟨before, hs, rfl⟩ := charsFrom?_eq_some_iff.mp h
    refine ⟨String.ofList before, String.ofList rest, ?_, ?_⟩
    · rw [← String.ofList_append, ← hs, String.ofList_toList]
    · rw [String.rawEndPos, utf8ByteSize_ofList]
  · rintro ⟨before, after, rfl, hn⟩
    refine ⟨after.toList, charsFrom?_eq_some_iff.mpr ⟨before.toList, String.toList_append, ?_⟩⟩
    rw [← utf8ByteSize_eq]
    exact congrArg String.Pos.Raw.byteIdx hn

example : charsFrom? "é;".toList 1 = none := by decide

namespace Lexer

/-! ## Cursors -/

/-- Where a lexer is in its text. -/
structure Cursor where
  offset : Nat
  position : Position
  done : Bool
  deriving DecidableEq

namespace Cursor

/-- What comes of asking a cursor for an item. -/
inductive Outcome where
  | outside
  | unfinished
  | answer (item? : Option (Except Error Token)) (after : Cursor)
  deriving DecidableEq

/-- The cursor at the start of a text. -/
def start : Cursor := ⟨0, Position.start, false⟩

/-- Goes on to the end of a piece. -/
def bump (c : Cursor) (piece : List Char) : Cursor :=
  { c with offset := c.offset + byteCount piece, position := c.position.advance piece }

/-- Ends with an item. The offset stays where it is. -/
def finish (c : Cursor) (item : Except Error Token) : Outcome :=
  .answer (some item) { c with done := true }

/-- Takes pieces from the text up to one that is not skipped, at most as many as the budget has. -/
def scan (src : String) : Nat → Cursor → Outcome
  | 0, _ => .unfinished
  | budget + 1, c =>
    match charsFrom? src.toList c.offset with
    | none => .outside
    | some [] => c.finish (.ok (Token.endingAt c.position))
    | some (first :: tail) =>
      match Lexeme.first? (first :: tail) with
      | none => c.finish (.error ⟨c.position, .unrecognized first⟩)
      | some l =>
        match l.kind? with
        | .error fault => c.finish (.error ⟨c.position, fault⟩)
        | .ok none => scan src budget (c.bump l.text)
        | .ok (some k) =>
          .answer (some (.ok ⟨k, String.ofList l.text, c.position⟩)) (c.bump l.text)

/-- The next item, if there is one, and the cursor after it. -/
def next (src : String) (budget : Nat) (c : Cursor) : Outcome :=
  if c.done then .answer none c else scan src budget c

/-- The letter in the comment takes two bytes, but one column. -/
example : start.next "//é\nx" 3
    = .answer (some (.ok ⟨.name, "x", ⟨2, 1⟩⟩)) ⟨6, ⟨2, 2⟩, false⟩ := by
  decide

/-- A scan by offset goes by the first piece too. -/
theorem scan_of_first? {src : String} {c : Cursor} {rest : List Char} {l : Lexeme}
    (hslice : charsFrom? src.toList c.offset = some rest) (h : Lexeme.first? rest = some l)
    (budget : Nat) :
    scan src (budget + 1) c = match l.kind? with
      | .error fault => c.finish (.error ⟨c.position, fault⟩)
      | .ok none => scan src budget (c.bump l.text)
      | .ok (some k) =>
        .answer (some (.ok ⟨k, String.ofList l.text, c.position⟩)) (c.bump l.text) := by
  cases rest with
  | nil => cases h
  | cons first tail =>
    rw [scan]
    simp only [hslice, h]

/-! ## Following a lexer -/

/-- The cursor is where the lexer is, or somewhere in the text if both are done. -/
inductive Follows (src : String) : Cursor → Lexer → Prop where
  | reading {before rest : List Char} (h : src.toList = before ++ rest) :
    Follows src ⟨byteCount before, Position.start.advance before, false⟩
      ⟨rest, Position.start.advance before, false⟩
  | done {before after : List Char} (h : src.toList = before ++ after) {l : Lexer}
    (hl : l.done = true) :
    Follows src ⟨byteCount before, Position.start.advance before, true⟩ l

variable {src : String} {c : Cursor} {l : Lexer} {budget : Nat}

theorem follows_start (src : String) : Follows src start (Lexer.ofText src.toList) :=
  @Follows.reading src [] src.toList rfl

/-- The cursor scans what the lexer scans, within any budget that has more pieces than there are
characters left. -/
theorem scan_follows {before rest : List Char} (h : src.toList = before ++ rest)
    (hbudget : rest.length < budget) :
    ∃ c, scan src budget ⟨byteCount before, Position.start.advance before, false⟩
        = .answer (some (Lexer.scan rest (Position.start.advance before)).1) c ∧
      Follows src c (Lexer.scan rest (Position.start.advance before)).2 := by
  induction budget generalizing before rest with
  | zero => exact absurd hbudget (Nat.not_lt_zero _)
  | succ budget ih =>
    have hslice : charsFrom? src.toList (byteCount before) = some rest := by
      rw [h, charsFrom?_append]
    cases hf : Lexeme.first? rest with
    | none =>
      cases rest with
      | nil =>
        rw [Lexer.scan, scan, hslice]
        exact ⟨_, rfl, .done h rfl⟩
      | cons first tail =>
        rw [scan_of_first?_none hf, scan]
        simp only [hslice, hf]
        exact ⟨_, rfl, .done h rfl⟩
    | some l =>
      -- The piece is at the front of what remains, so the cursor moves to the end of a character.
      obtain ⟨q, hq, htext, -⟩ := Piece.isLongest_of_first? hf
      obtain ⟨after, hafter⟩ := htext ▸ hq.front
      have hsplit : src.toList = (before ++ l.text) ++ after := by
        rw [h, ← hafter, List.append_assoc]
      have hdrop : rest.drop l.text.length = after := by
        rw [← hafter, List.drop_left]
      have hlength : rest.length = l.text.length + after.length := by
        rw [← hafter, List.length_append]
      rw [Lexer.scan_of_first? hf, scan_of_first? hslice hf, hdrop, bump, ← byteCount_append,
        ← Position.advance_append]
      cases hk : l.kind? with
      | error fault => exact ⟨_, rfl, .done h rfl⟩
      | ok kind? =>
        cases kind? with
        | none =>
          have := Lexeme.text_length_pos hf
          exact ih hsplit (by omega)
        | some k => exact ⟨_, rfl, .reading hsplit⟩

namespace Follows

/-- Where a lexer that is done stands does not matter. -/
theorem of_done (h : Follows src c l) (hl : l.done = true) {l' : Lexer} (hl' : l'.done = true) :
    Follows src c l' := by
  cases h with
  | reading => cases hl
  | done hsplit => exact .done hsplit hl'

/-- Asked for an item, the cursor answers what the lexer does, and goes on following it. -/
theorem next (h : Follows src c l) (hbudget : src.length < budget) :
    match l.next? with
    | none => c.next src budget = .answer none c
    | some (item, l') => ∃ c', c.next src budget = .answer (some item) c' ∧ Follows src c' l' := by
  cases h with
  | @reading before rest hsplit =>
    have hlength : rest.length ≤ src.length := by
      rw [← String.length_toList, hsplit, List.length_append]
      omega
    exact scan_follows hsplit (Nat.lt_of_le_of_lt hlength hbudget)
  | done hsplit hl =>
    rw [Lexer.next?, if_pos hl]
    rfl

theorem size_le (h : Follows src c l) : l.size ≤ src.length + 1 := by
  cases h with
  | @reading before rest hsplit =>
    rw [size, if_neg Bool.false_ne_true, ← String.length_toList, hsplit, List.length_append]
    exact Nat.succ_le_succ (Nat.le_add_left _ _)
  | done hsplit hl =>
    rw [size, if_pos hl]
    exact Nat.zero_le _

end Follows

/-! ## Places -/

/-- The offset is at the boundary of a character, no further than the end, so that the text can be
cut there; and the position is the one that the text before it leads to. -/
structure Placed (src : String) (c : Cursor) : Prop where
  boundary : (⟨c.offset⟩ : String.Pos.Raw).IsValid src
  inside : c.offset ≤ src.utf8ByteSize
  cut : ∃ before after : String, src = before ++ after ∧ c.offset = before.utf8ByteSize ∧
    charsFrom? src.toList c.offset = some after.toList ∧
    c.position = Position.start.advance before.toList

theorem placed_of_split {before after : List Char} (h : src.toList = before ++ after)
    (done : Bool) : Placed src ⟨byteCount before, Position.start.advance before, done⟩ := by
  have hslice : charsFrom? src.toList (byteCount before) = some after := by
    rw [h, charsFrom?_append]
  have hboundary := isSome_charsFrom?.mp (Option.isSome_of_eq_some hslice)
  refine ⟨hboundary, hboundary.le_rawEndPos, String.ofList before, String.ofList after, ?_, ?_, ?_,
    ?_⟩
  · rw [← String.ofList_append, ← h, String.ofList_toList]
  · rw [utf8ByteSize_ofList]
  · rw [String.toList_ofList]
    exact hslice
  · rw [String.toList_ofList]

theorem Follows.placed (h : Follows src c l) : Placed src c := by
  cases h with
  | reading hsplit => exact placed_of_split hsplit false
  | done hsplit => exact placed_of_split hsplit true

end Cursor

end Lexer

end Looplet
