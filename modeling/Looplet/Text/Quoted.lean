import Looplet.Text.Combining
import Looplet.Text.Hidden

/-!
# Characters in messages

A character is named in a message between single quotes, and a text between double quotes, with an
escape for every character that could not be read off the page.
-/

namespace Looplet.Text

/-- A code point in hexadecimal, between braces. -/
def codePoint (c : Char) : String :=
  "\\u\x7b" ++ String.ofList (Nat.toDigits 16 c.toNat) ++ "\x7d"

/-- What stands for a character between the quotes. -/
def escaped (c : Char) : String :=
  if c = '\x00' then "\\0"
  else if c = '\t' then "\\t"
  else if c = '\r' then "\\r"
  else if c = '\n' then "\\n"
  else if c = '\\' then "\\\\"
  else if c = '\'' then "\\'"
  else if isCombining c || isHidden c then codePoint c
  else c.toString

/-- A character as a message names it. -/
def quoted (c : Char) : String :=
  "'" ++ escaped c ++ "'"

/-- What stands for a character in a text between double quotes. -/
def escapedInText (c : Char) : String :=
  if c = '"' then "\\\""
  else if c = '\'' then "'"
  else escaped c

/-- A text as a message names it. -/
def quotedText (s : String) : String :=
  "\"" ++ String.join (s.toList.map escapedInText) ++ "\""

end Looplet.Text
