/-!
# Sets of characters

A set is given by its members: ranges of characters, and classes that have a name.
-/

namespace Looplet.Text

/-- A member of a set of characters. -/
inductive Member where
  | range (first last : Char)
  | named (name : String)
  deriving DecidableEq

/-- The names of classes of characters. -/
def classNames : List String :=
  ["alnum", "alpha", "blank", "cntrl", "digit", "graph", "lower", "print", "punct", "space",
    "upper", "xdigit"]

/-- Whether a character belongs to a named class. -/
def inNamedClass (name : String) (c : Char) : Bool :=
  let isPrint := ' ' ≤ c && c ≤ '~'
  match name with
  | "alnum" => c.isAlphanum
  | "alpha" => c.isAlpha
  | "blank" => c = ' ' || c = '\t'
  | "cntrl" => c < ' ' || c = '\x7f'
  | "digit" => c.isDigit
  | "graph" => isPrint && c ≠ ' '
  | "lower" => c.isLower
  | "print" => isPrint
  | "punct" => isPrint && c ≠ ' ' && !c.isAlphanum
  | "space" => c = ' ' || ('\t' ≤ c && c ≤ '\r')
  | "upper" => c.isUpper
  | "xdigit" => c.isDigit || ('a' ≤ c && c ≤ 'f') || ('A' ≤ c && c ≤ 'F')
  | _ => false

/-- Whether a character is a given member. -/
def Member.holds (c : Char) : Member → Bool
  | range first last => first ≤ c && c ≤ last
  | named name => inNamedClass name c

/-- Whether a character may be part of a word. -/
def isWordChar (c : Char) : Bool := c.isAlphanum || c = '_' || 127 < c.toNat

end Looplet.Text
