/-!
# Dividing texts

`splitOn` divides a text at every separator, `lines` at the ends of lines: a line feed, or a
carriage return and a line feed. What follows the last end of a line is a line only if it is not
empty.
-/

namespace Looplet.Text

/-- The parts of a text between separators. There is one part more than there are separators. -/
def splitChars (sep : Char) : List Char → List (List Char)
  | [] => [[]]
  | c :: cs =>
    if c = sep then [] :: splitChars sep cs
    else
      match splitChars sep cs with
      | [] => [[c]]
      | p :: ps => (c :: p) :: ps

/-- The parts of a text between separators. -/
def splitOn (sep : Char) (s : String) : List String :=
  (splitChars sep s.toList).map String.ofList

/-- A line without the carriage return at its end. -/
def withoutReturn (line : List Char) : List Char :=
  if line.getLast? = some '\r' then line.dropLast else line

/-- The lines that the parts between line feeds make. -/
def linesOfParts : List (List Char) → List (List Char)
  | [] => []
  | [last] => if last.isEmpty then [] else [last]
  | line :: rest => withoutReturn line :: linesOfParts rest

/-- The lines of a text. -/
def lines (s : String) : List String :=
  (linesOfParts (splitChars '\n' s.toList)).map String.ofList

/-! ## Lemmas -/

theorem splitChars_ne_nil (sep : Char) (cs : List Char) : splitChars sep cs ≠ [] := by
  cases cs with
  | nil => simp [splitChars]
  | cons c cs =>
    unfold splitChars
    split
    · simp
    · split <;> simp

end Looplet.Text
