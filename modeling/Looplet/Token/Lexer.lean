import Looplet.Text.Blank
import Looplet.Text.Quoted
import Looplet.Token

/-!
# Reading tokens

One pattern says what may stand at the front of a text. `Lexeme.alternatives` are its alternatives:
blanks, a comment, a number, a word and the operators. `Lexeme.first?` tries them in order, and the
first that fits takes as many characters as it can. That no other would take more is proved of these
alternatives, and not said by the search. `Lexeme.kind?` says which token a piece is, if any. A
`Lexer` is what remains to be read, with its position; it is a plain value, so keeping an earlier
one is enough to read from there again. `Lexer.next?` gives the next item and the lexer after it:
tokens, then either the token that ends the text or one error, and nothing more.

    tokenize src = .ok ts       `ts` are the tokens of `src`, the last one of kind `ending`
-/

namespace Looplet

/-! ## Algorithm -/

/-- A word starts with a letter or an underscore. -/
def isWordStart (c : Char) : Bool :=
  c.isAlpha || c == '_'

/-- A word goes on with letters, digits and underscores. -/
def isWordPart (c : Char) : Bool :=
  isWordStart c || c.isDigit

/-- How operators are written. None of these texts begins another. -/
def operatorTexts : List String :=
  ["<-", "==", "!=", "+", "(", ")", "\x7b", "\x7d", ",", ";", ":"]

/-- What a piece of a text is taken for. -/
inductive Lexeme.Group where
  | skipped
  | number
  | word
  | operator
  deriving DecidableEq

/-- A piece of a text with its group, if it belongs to one. -/
structure Lexeme where
  group? : Option Lexeme.Group
  text : List Char

/-- An alternative of the pattern: the group of its pieces, what their first characters are, one
after the other, and what characters they go on with. -/
structure Lexeme.Alternative where
  group : Lexeme.Group
  opening : List (Char → Bool)
  more : Char → Bool

/-- The alternative that is one operator. -/
def Lexeme.Alternative.ofOperator (text : List Char) : Alternative :=
  ⟨.operator, text.map fun c d => c == d, fun _ => false⟩

/-- The alternatives of the pattern, in the order in which they are tried. -/
def Lexeme.alternatives : List Alternative :=
  [⟨.skipped, [Text.isBlank], Text.isBlank⟩,
    ⟨.skipped, [(· == '/'), (· == '/')], (· ≠ '\n')⟩,
    ⟨.number, [Char.isDigit], Char.isDigit⟩,
    ⟨.word, [isWordStart], isWordPart⟩]
    ++ operatorTexts.map fun t => .ofOperator t.toList

/-- Characters that open a text as they have to, and after them all those that it goes on with. -/
def Lexeme.taken? (more : Char → Bool) : List (Char → Bool) → List Char → Option (List Char)
  | [], cs => some (cs.takeWhile more)
  | _ :: _, [] => none
  | p :: ps, c :: cs => if p c then (taken? more ps cs).map (c :: ·) else none

/-- What an alternative takes at the front of a text. -/
def Lexeme.Alternative.take? (a : Alternative) (cs : List Char) : Option Lexeme :=
  (taken? a.more a.opening cs).map fun text => ⟨some a.group, text⟩

/-- The piece that the pattern takes at the front of a text: what the first of its alternatives
takes that fits. -/
def Lexeme.first? (cs : List Char) : Option Lexeme :=
  alternatives.findSome? fun a => a.take? cs

namespace Lexer

/-- Why a text cannot be read on. -/
inductive Fault where
  | unrecognized (c : Char)
  | oversized (digits : String)
  | unknownOperator (text : String)
  | unknownInput
  deriving DecidableEq

/-- The wording of a fault. -/
def Fault.message : Fault → String
  | unrecognized c => "unrecognized character " ++ Text.quoted c
  | oversized digits => "integer literal " ++ digits ++ " does not fit in 64 bits"
  | unknownOperator text => "unrecognized operator " ++ Text.quotedText text
  | unknownInput => "unrecognized input"

/-- A fault and where it stands. -/
structure Error where
  position : Position
  fault : Fault
  deriving DecidableEq

end Lexer

/-- The kind of token that a piece is, or none if it is skipped. A number must fit in a word. -/
def Lexeme.kind? (l : Lexeme) : Except Lexer.Fault (Option Token.Kind) :=
  match l.group? with
  | some .skipped => .ok none
  | some .number =>
    if (Text.word? l.text).isSome then .ok (some .number)
    else .error (.oversized (String.ofList l.text))
  | some .word => .ok (some (Token.Kind.ofWord l.text))
  | some .operator =>
    match Token.Kind.ofOperator? l.text with
    | some k => .ok (some k)
    | none => .error (.unknownOperator (String.ofList l.text))
  | none => .error .unknownInput

/-- What remains to be read. After its last item a lexer is `done`. -/
structure Lexer where
  rest : List Char
  position : Position
  done : Bool
  deriving DecidableEq

namespace Lexer

/-- A lexer at the start of a text. -/
def ofText (cs : List Char) : Lexer := ⟨cs, Position.start, false⟩

/-- An upper bound on the number of items to come. -/
def size (l : Lexer) : Nat :=
  if l.done then 0 else l.rest.length + 1

end Lexer

theorem Lexeme.length_of_taken? {more : Char → Bool} {ps : List (Char → Bool)}
    {cs text : List Char} (h : taken? more ps cs = some text) : ps.length ≤ text.length := by
  induction ps generalizing cs text with
  | nil => exact Nat.zero_le _
  | cons p ps ih =>
    cases cs with
    | nil => cases h
    | cons c cs =>
      rw [taken?] at h
      split at h
      · obtain ⟨rest, hrest, rfl⟩ := Option.map_eq_some_iff.mp h
        exact Nat.succ_le_succ (ih hrest)
      · cases h

theorem Lexeme.opening_length_pos : ∀ a ∈ alternatives, 0 < a.opening.length := by
  decide

/-- No alternative fits without a character. -/
theorem Lexeme.text_length_pos {cs : List Char} {l : Lexeme} (h : first? cs = some l) :
    0 < l.text.length := by
  obtain ⟨a, ha, htake⟩ := List.exists_of_findSome?_eq_some h
  obtain ⟨text, htaken, rfl⟩ := Option.map_eq_some_iff.mp htake
  exact Nat.lt_of_lt_of_le (opening_length_pos a ha) (length_of_taken? htaken)

namespace Lexer

/-- The next token or error of the text `cs` that starts at `p`, and the lexer after it. -/
def scan (cs : List Char) (p : Position) : Except Error Token × Lexer :=
  match cs with
  | [] => (.ok (Token.endingAt p), ⟨[], p, true⟩)
  | c :: tail =>
    match h : Lexeme.first? (c :: tail) with
    | none => (.error ⟨p, .unrecognized c⟩, ⟨c :: tail, p, true⟩)
    | some l =>
      have := Lexeme.text_length_pos h
      let after := (c :: tail).drop l.text.length
      match l.kind? with
      | .error fault => (.error ⟨p, fault⟩, ⟨c :: tail, p, true⟩)
      | .ok none => scan after (p.advance l.text)
      | .ok (some k) => (.ok ⟨k, String.ofList l.text, p⟩, ⟨after, p.advance l.text, false⟩)
termination_by cs.length
decreasing_by
  simp only [List.length_drop, List.length_cons]
  omega

/-- The next item and the lexer after it; nothing once the lexer is done. -/
def next? (l : Lexer) : Option (Except Error Token × Lexer) :=
  if l.done then none else some (scan l.rest l.position)

theorem size_scan (cs : List Char) (p : Position) : (scan cs p).2.size ≤ cs.length := by
  fun_induction scan cs p with
  | case1 => simp [size]
  | case2 => simp [size]
  | case3 => simp [size]
  | case4 p c tail l h _ after hk ih =>
    have : after.length ≤ (c :: tail).length := by simp [after]
    omega
  | case5 p c tail l h hpos after k hk =>
    simp only [size, after, List.length_drop, List.length_cons, Bool.false_eq_true, if_false]
    omega

theorem size_next? {l l' : Lexer} {item : Except Error Token} (h : l.next? = some (item, l')) :
    l'.size < l.size := by
  unfold next? at h
  split at h
  · contradiction
  · next hd =>
    have := size_scan l.rest l.position
    simp only [Option.some.injEq] at h
    rw [h] at this
    simp only [size, hd, Bool.false_eq_true, if_false] at this ⊢
    omega

/-- All items that remain. -/
def items (l : Lexer) : List (Except Error Token) :=
  match h : l.next? with
  | none => []
  | some (item, l') =>
    have := size_next? h
    item :: items l'
termination_by l.size

/-- The tokens of a list of items, or its first error. -/
def collect : List (Except Error Token) → Except Error (List Token)
  | [] => .ok []
  | .error e :: _ => .error e
  | .ok t :: rest =>
    match collect rest with
    | .error e => .error e
    | .ok ts => .ok (t :: ts)

end Lexer

/-- The tokens of a text, the ending token included, or the first fault. -/
def tokenize (src : String) : Except Lexer.Error (List Token) :=
  Lexer.collect (Lexer.ofText src.toList).items

end Looplet
