import Looplet.Text.Bytes
import Looplet.Text.Decimal

/-!
# Quoting

Texts as a shell would read them back. The ways differ in which quotes they use: single quotes,
double quotes, a backslash before every character that needs one, or single quotes after a dollar
sign with escapes for what cannot be shown.
-/

namespace Looplet.Shell

/-! ## Single quotes -/

/-- A text between single quotes. Quotes in it stand between double quotes. -/
def singleQuote : Nat → List Char → String
  | 0, _ => ""
  | fuel + 1, cs =>
    let plain := cs.takeWhile (· ≠ '\'')
    let rest := cs.drop plain.length
    let quotes := rest.takeWhile (· = '\'')
    let start := "'" ++ String.ofList plain ++ "'"
    if rest.isEmpty then start
    else
      start ++ "\"" ++ String.ofList quotes ++ "\""
        ++ match rest.drop quotes.length with
          | [] => ""
          | more => singleQuote fuel more

/-- A text as the shell would read it back. -/
def requoted (s : String) : String := singleQuote (s.length + 1) s.toList

namespace Quoting

/-- A text between single quotes. A quote in it stands alone after a backslash. -/
def single (s : String) : String :=
  if s = "'" then "\\'"
  else
    let each (c : Char) : String := if c = '\'' then "'\\''" else c.toString
    "'" ++ String.join (s.toList.map each) ++ "'"

/-! ## Double quotes -/

/-- A text between double quotes. -/
def double (s : String) : String :=
  let each (c : Char) : String :=
    if c ∈ ['"', '$', '\x60', '\\'] then String.ofList ['\\', c] else c.toString
  "\"" ++ String.join (s.toList.map each) ++ "\""

/-! ## Escapes -/

/-- Whether a character can be shown. -/
def isShown (c : Char) : Bool :=
  let n := c.toNat
  (0x20 ≤ n && n < 0x7f) || (0xa0 ≤ n && n < Text.strayBase)

/-- Whether a text has something that cannot be shown. -/
def hasHidden (utf8 : Bool) (s : String) : Bool := (Text.wide utf8 s).any fun c => !isShown c

/-- The escapes that are single letters. -/
def letters : List (Char × Char) :=
  [('\x07', 'a'), ('\x08', 'b'), ('\x1b', 'E'), ('\x0c', 'f'), ('\n', 'n'), ('\r', 'r'),
    ('\t', 't'), ('\x0b', 'v'), ('\\', '\\'), ('\'', '\'')]

/-- A byte as an escape with three digits. -/
def octal (c : Char) : String :=
  let n := c.toNat
  let digit (k : Nat) : Char := Char.ofNat ('0'.toNat + k % 8)
  String.ofList ['\\', digit (n / 64), digit (n / 8), digit n]

/-- A text between single quotes after a dollar sign. -/
def escaped (utf8 : Bool) (s : String) : String :=
  let each (c : Char) : String :=
    match letters.lookup c with
    | some d => String.ofList ['\\', d]
    | none =>
      let bytes := Text.narrow utf8 [c]
      if isShown c then bytes else String.join (bytes.toList.map octal)
  "$'" ++ String.join ((Text.wide utf8 s).map each) ++ "'"

/-! ## Backslashes -/

/-- The characters that mean something to a shell wherever they stand. -/
def metaChars : List Char :=
  [' ', '\t', '\n', '\'', '"', '\\', '|', '&', ';', '(', ')', '<', '>', '!', '\x7b', '\x7d', '*',
    '[', '?', ']', '^', '$', '\x60']

/-- Whether a character means something to a shell after the character before it. -/
def isMeta (before? : Option Char) (c : Char) : Bool :=
  c ∈ metaChars || (c = '#' && before?.isNone)
    || (c = '~' && (before?.isNone || before? = some ':' || before? = some '='))

/-- Whether a text has a character that means something to a shell. -/
def hasMeta (before? : Option Char) : List Char → Bool
  | [] => false
  | c :: cs => isMeta before? c || hasMeta (some c) cs

/-- Characters with a backslash before each that needs one. -/
def backslashed (before? : Option Char) : List Char → List Char
  | [] => []
  | c :: cs =>
    let rest := backslashed (some c) cs
    if isMeta before? c || c = ',' then '\\' :: c :: rest else c :: rest

/-- A text with a backslash before each character that needs one. -/
def plain (utf8 : Bool) (s : String) : String :=
  if s = "" then "''"
  else if hasHidden utf8 s then escaped utf8 s
  else String.ofList (backslashed none s.toList)

/-! ## Choices -/

/-- A text between single quotes, with escapes if something in it cannot be shown. -/
def shown (utf8 : Bool) (s : String) : String :=
  if hasHidden utf8 s then escaped utf8 s else single s

/-- A text between double quotes, with escapes if something in it cannot be shown. -/
def declared (utf8 : Bool) (s : String) : String :=
  if hasHidden utf8 s then escaped utf8 s else double s

/-- A text in quotes only if it needs them, as a value in a list of variables. -/
def listed (utf8 : Bool) (s : String) : String :=
  if hasHidden utf8 s then escaped utf8 s
  else if hasMeta none s.toList then single s
  else s

/-- A text in quotes only if it needs them, as a word of a command that is shown. -/
def traced (utf8 : Bool) (s : String) : String :=
  if s = "" then "''"
  else if hasMeta none s.toList then single s
  else if hasHidden utf8 s then escaped utf8 s
  else s

/-- A text in quotes only if it needs them, as the value of a variable that is shown when it is
set. -/
def assigned (utf8 : Bool) (s : String) : String := if s = "" then "" else traced utf8 s

end Quoting

end Looplet.Shell
