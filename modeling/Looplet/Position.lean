/-!
# Positions in a source text

A position is a line and a column, both counted from one; a column counts characters.
`Position.advance` moves a position over a piece of text, so the position of a character is
`Position.start.advance` of what stands before it.
-/

namespace Looplet

/-- A line and a column of a source text. -/
structure Position where
  line : Nat
  column : Nat
  deriving DecidableEq

namespace Position

/-- The first character of a text. -/
def start : Position := ⟨1, 1⟩

/-- Only a line feed starts a line; every other character takes one column. -/
def step (p : Position) (c : Char) : Position :=
  if c = '\n' then ⟨p.line + 1, 1⟩ else ⟨p.line, p.column + 1⟩

/-- The position after the text `cs` that starts at `p`. -/
def advance (p : Position) (cs : List Char) : Position :=
  cs.foldl step p

/-- Counts are written as words of 64 bits, so a count beyond the largest word starts again at
zero. -/
def countText (n : Nat) : String :=
  Nat.repr (n % 18446744073709551616)

/-- A position is written `line:column`. -/
def text (p : Position) : String :=
  countText p.line ++ ":" ++ countText p.column

/-! ## Lemmas -/

@[simp] theorem advance_nil (p : Position) : p.advance [] = p := rfl

@[simp] theorem advance_cons (p : Position) (c : Char) (cs : List Char) :
    p.advance (c :: cs) = (p.step c).advance cs := rfl

theorem advance_append (p : Position) (xs ys : List Char) :
    p.advance (xs ++ ys) = (p.advance xs).advance ys :=
  List.foldl_append

end Position

end Looplet
