import Looplet.Position
import Looplet.Text.Decimal

/-!
# Tokens

A token is a piece of the source text with its kind and its position. Kind and text are separate:
a token made by hand may carry any text, and `Token.value?` says which texts are numbers.
-/

namespace Looplet

namespace Token

/-- The kinds of tokens. `ending` marks the end of the input. -/
inductive Kind where
  | funcWord | ifWord | elseWord | whileWord | breakWord | continueWord
  | name | number
  | arrow | equal | notEqual | plus
  | openParen | closeParen | openBrace | closeBrace | comma | semicolon | colon
  | ending
  deriving DecidableEq

/-- The fixed spelling of a kind, for the kinds that have one. -/
def Kind.spelling? : Kind → Option String
  | funcWord => some "func"
  | ifWord => some "if"
  | elseWord => some "else"
  | whileWord => some "while"
  | breakWord => some "break"
  | continueWord => some "continue"
  | arrow => some "<-"
  | equal => some "=="
  | notEqual => some "!="
  | plus => some "+"
  | openParen => some "("
  | closeParen => some ")"
  | openBrace => some "\x7b"
  | closeBrace => some "\x7d"
  | comma => some ","
  | semicolon => some ";"
  | colon => some ":"
  | name => none
  | number => none
  | ending => none

/-- How a message names a kind that it expects. -/
def Kind.description (k : Kind) : String :=
  match k.spelling? with
  | some s => "`" ++ s ++ "`"
  | none =>
    match k with
    | name => "identifier"
    | number => "integer literal"
    | _ => "end of input"

/-- The words that are not names. -/
def keywords : List Kind :=
  [.funcWord, .ifWord, .elseWord, .whileWord, .breakWord, .continueWord]

/-- The kind of a whole word: a keyword, or else a name. -/
def Kind.ofWord (w : List Char) : Kind :=
  (keywords.find? fun k => k.spelling? = some (String.ofList w)).getD .name

/-- The operators, punctuation included. -/
def operators : List Kind :=
  [.arrow, .equal, .notEqual, .plus, .openParen, .closeParen, .openBrace, .closeBrace, .comma,
    .semicolon, .colon]

/-- The kind of the operator that is spelled like this. -/
def Kind.ofOperator? (w : List Char) : Option Kind :=
  operators.find? fun k => k.spelling? = some (String.ofList w)

end Token

/-- A piece of the source text. -/
structure Token where
  kind : Token.Kind
  text : String
  position : Position
  deriving DecidableEq

namespace Token

/-- How a message shows a token that it found. -/
def shown (t : Token) : String :=
  if t.kind = .ending then "end of input" else "`" ++ t.text ++ "`"

/-- The value of a number token, if its text is a decimal number that fits in a word. -/
def value? (t : Token) : Option Int64 :=
  if t.kind = .number then Text.word? t.text.toList else none

/-- The token that ends a text. -/
def endingAt (p : Position) : Token := ⟨.ending, "", p⟩

end Token

end Looplet
