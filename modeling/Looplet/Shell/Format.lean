import Looplet.Shell.Arithmetic
import Looplet.Text.Bytes
import Looplet.Text.Scientific

/-!
# Echoing and formatting

`echoed` is what `echo` writes, `Format.printed` what `printf` writes. Both know escapes after a
backslash. A format is used again as long as arguments are left, and an argument that is missing
counts as empty.
-/

namespace Looplet.Shell

/-! ## Escapes -/

/-- How a program reads escapes and numbers. -/
structure Style where
  /-- Whether escapes may be hexadecimal, and conversions may quote. -/
  rich : Bool
  /-- Whether `\c` in a format ends all output. -/
  stops : Bool
  /-- Whether characters have codes of several bytes. -/
  utf8 : Bool
  /-- How real numbers are read. -/
  precision : Text.Precision
  /-- How a text is quoted so that a shell would read it back. -/
  quoting : String → String
  /-- Whether the digits of an octal escape of a text need a zero before them. -/
  needsZero : Bool

/-- The style of the standard. -/
def Style.standard : Style := ⟨false, false, false, .double, id, false⟩

/-- Whether a character is an octal digit. -/
def isOctal (c : Char) : Bool := '0' ≤ c && c ≤ '7'

/-- The character of an escape with a letter. -/
def letterEscape? (c : Char) : Option Char :=
  [('\\', '\\'), ('a', '\x07'), ('b', '\x08'), ('e', '\x1b'), ('f', '\x0c'), ('n', '\n'),
    ('r', '\r'), ('t', '\t'), ('v', '\x0b')].lookup c

/-- The bytes of a character with a given code. -/
def Style.character (style : Style) (n : Nat) : String :=
  if n < 128 then (Char.ofNat n).toString
  else if style.utf8 then Text.encoded (Char.ofNat n).toString
  else
    let digits := (Nat.toDigits 16 n).map Char.toUpper
    let width := if n < 65536 then 4 else 8
    (if n < 65536 then "\\u" else "\\U")
      ++ String.ofList (List.replicate (width - digits.length) '0' ++ digits)

/-- The code of the first character of a text, and what follows it. -/
def Style.firstCode (style : Style) : List Char → Nat × List Char
  | [] => (0, [])
  | c :: cs =>
    let size := if style.utf8 && 127 < c.toNat then Text.encodedLength c.toNat else 1
    let bytes := Text.toBytes (String.ofList ((c :: cs).take size))
    match if 1 < size then String.fromUTF8? bytes else none with
    | some s => ((s.toList.head?.map Char.toNat).getD c.toNat, (c :: cs).drop size)
    | none => (c.toNat, cs)

/-- The digits in base sixteen at the start of a text, up to a number of them. -/
def hexRun (limit : Nat) (cs : List Char) : List Char :=
  (cs.take limit).takeWhile (Text.isDigitIn 16)

/-- What an escape stands for, after its backslash, and what follows it. A backslash that starts no
escape stands for itself. -/
def unescape (style : Style) : List Char → String × List Char
  | [] => ("\\", [])
  | c :: cs =>
    if isOctal c then
      let digits := ((c :: cs).take 3).takeWhile isOctal
      ((Char.ofNat (Text.valueIn 8 digits % 256)).toString, (c :: cs).drop digits.length)
    else
      let wide := if c = 'x' then 2 else if c = 'u' then 4 else if c = 'U' then 8 else 0
      let digits := hexRun wide cs
      if style.rich && !digits.isEmpty then
        let n := Text.valueIn 16 digits
        (if c = 'x' then (Char.ofNat n).toString else style.character n, cs.drop digits.length)
      else if style.rich && c = '"' then ("\"", cs)
      else
        match letterEscape? c with
        | some d => (d.toString, cs)
        | none => ("\\", c :: cs)

/-- A text with its escapes replaced, and whether `\c` ended it. The digits of an octal escape may
follow a zero. -/
def unescaped (style : Style) : Nat → List Char → String × Bool
  | 0, _ => ("", false)
  | _ + 1, [] => ("", false)
  | fuel + 1, '\\' :: cs =>
    match cs with
    | 'c' :: _ => ("", true)
    | _ =>
      let isBare := match cs with
        | d :: _ => style.needsZero && isOctal d && d ≠ '0'
        | [] => false
      let cs := match cs with
        | '0' :: d :: rest => if isOctal d then d :: rest else cs
        | _ => cs
      let (start, rest) := if isBare then ("\\", cs) else unescape style cs
      let (text, ended) := unescaped style fuel rest
      (start ++ text, ended)
  | fuel + 1, c :: cs =>
    let plain := (c :: cs).takeWhile (· ≠ '\\')
    let (text, ended) := unescaped style fuel ((c :: cs).drop plain.length)
    (String.ofList plain ++ text, ended)

/-- A whole text with its escapes replaced. -/
def unescapedText (style : Style) (s : String) : String × Bool :=
  unescaped style (s.length + 1) s.toList

/-- What `echo` writes for its arguments, with escapes replaced. -/
def echoedArgs (style : Style) (ending : String) : List String → String
  | [] => ending
  | [s] =>
    let (text, ended) := unescapedText style s
    if ended then text else text ++ ending
  | s :: rest =>
    let (text, ended) := unescapedText style s
    if ended then text else text ++ " " ++ echoedArgs style ending rest

/-- What `echo` writes. A first argument `-n` leaves out the line feed at the end. -/
def echoed : List String → String
  | "-n" :: rest => echoedArgs .standard "" rest
  | args => echoedArgs .standard "\n" args

/-- What an `echo` that knows escapes only on demand writes for its arguments after the options. -/
def echoedChoosing (style : Style) (newline escapes : Bool) (args : List String) : String :=
  let ending := if newline then "\n" else ""
  if escapes then echoedArgs style ending args else " ".intercalate args ++ ending

/-- What an `echo` that knows escapes only on demand writes: arguments of the letters `n`, `e` and
`E` at the start are options. -/
def echoedPlainly (style : Style) (newline escapes : Bool) : List String → String
  | [] => echoedChoosing style newline false []
  | a :: rest =>
    let letters := a.toList.drop 1
    if a.toList.head? = some '-' && !letters.isEmpty
        && letters.all fun d => d ∈ ['n', 'e', 'E'] then
      let escapes := match (letters.filter (· ≠ 'n')).getLast? with
        | some d => decide (d = 'e')
        | none => escapes
      echoedPlainly style (newline && 'n' ∉ letters) escapes rest
    else echoedChoosing style newline escapes (a :: rest)

/-! ## Formats -/

/-- A part of a format: text, or a conversion with its flags, its width and its precision, which may
be arguments. -/
inductive Directive where
  | text (text : String)
  | convert (written : String) (flags : List Char) (width? precision? : Option (Option Nat))
      (letter : Char)
  | unfinished (written : String)
  | stop

/-- What is wrong with an argument that should be a number. -/
inductive Complaint where
  | partly (arg : String)
  | notNumber (arg : String)
  | outOfRange (arg : String)
  | afterQuote (rest : String)

/-- Whether a complaint is no failure. -/
def Complaint.isWarning : Complaint → Bool
  | .afterQuote _ => true
  | _ => false

/-- What is wrong with a format. -/
inductive FormatFault where
  | invalid (written : String) (letter : Char)
  | unfinished (written : String)

namespace Format

/-- Reads a width or a precision: a number, or a star for an argument. -/
def amount (cs : List Char) : Option Nat × List Char :=
  match cs with
  | '*' :: rest => (none, rest)
  | _ =>
    let digits := cs.takeWhile fun c => c.isDigit || c = '*'
    (some (Text.digitsValue (digits.filter Char.isDigit)), cs.drop digits.length)

/-- Reads a conversion, after its percent sign. -/
def conversion (rich : Bool) (cs : List Char) : Directive × List Char :=
  let flags := cs.takeWhile fun c => c ∈ ['#', '-', '+', ' ', '0']
  let rest := cs.drop flags.length
  let (width, rest) := amount rest
  let (precision?, rest) := match rest with
    | '.' :: more =>
      let (n, more) := amount more
      (some n, more)
    | _ => (none, rest)
  let rest := rest.dropWhile fun c => rich && c ∈ ['h', 'l', 'j', 'z', 't', 'L']
  match rest with
  | [] => (.unfinished ("%" ++ String.ofList cs), [])
  | c :: more =>
    let written := "%" ++ String.ofList (cs.take (cs.length - more.length))
    (.convert written flags (some width) precision? c, more)

/-- The parts of a format. -/
def directives (style : Style) : Nat → List Char → List Directive
  | 0, _ => []
  | _ + 1, [] => []
  | fuel + 1, '\\' :: cs =>
    if style.stops && cs.head? = some 'c' then [.stop]
    else
      let (text, rest) := unescape style cs
      .text text :: directives style fuel rest
  | fuel + 1, '%' :: '%' :: cs => .text "%" :: directives style fuel cs
  | fuel + 1, '%' :: cs =>
    let (d, rest) := conversion style.rich cs
    d :: directives style fuel rest
  | fuel + 1, c :: cs => .text c.toString :: directives style fuel cs

/-- A text in a field of a given width. -/
def padded (flags : List Char) (width : Int) (s : String) : String :=
  let blanks := String.ofList (List.replicate (width.natAbs - s.length) ' ')
  if '-' ∈ flags || width < 0 then s ++ blanks else blanks ++ s

/-- A number in a field: its sign, its mark of base and its digits. Zeros fill the field between
them if they are asked for and there is no precision. -/
def paddedNumber (flags : List Char) (width : Int) (precision? : Option Nat)
    (sign mark digits : String) : String :=
  let zeros := fun (n : Nat) => String.ofList (List.replicate n '0')
  match precision? with
  | some n => padded flags width (sign ++ mark ++ zeros (n - digits.length) ++ digits)
  | none =>
    if '0' ∈ flags && '-' ∉ flags && 0 ≤ width then
      sign ++ mark ++ zeros (width.toNat - (sign ++ mark ++ digits).length) ++ digits
    else padded flags width (sign ++ mark ++ digits)

/-- The digits of a number; with precision zero, zero has none. -/
def digitsOf (base : Nat) (precision? : Option Nat) (n : Nat) : String :=
  if precision? = some 0 && n = 0 then "" else String.ofList (Nat.toDigits base n)

/-- A signed number as a conversion writes it. -/
def signedNumber (flags : List Char) (width : Int) (precision? : Option Nat) (n : Int) : String :=
  let sign := if n < 0 then "-" else if '+' ∈ flags then "+" else if ' ' ∈ flags then " " else ""
  paddedNumber flags width precision? sign "" (digitsOf 10 precision? n.natAbs)

/-- A number without sign as a conversion writes it. -/
def unsignedNumber (flags : List Char) (width : Int) (precision? : Option Nat) (letter : Char)
    (n : Nat) : String :=
  let marked := '#' ∈ flags && n ≠ 0
  match letter with
  | 'o' =>
    let digits := digitsOf 8 precision? n
    let marked := '#' ∈ flags && !digits.startsWith "0"
    paddedNumber flags width precision? "" "" (if marked then "0" ++ digits else digits)
  | 'x' =>
    paddedNumber flags width precision? "" (if marked then "0x" else "") (digitsOf 16 precision? n)
  | 'X' =>
    paddedNumber flags width precision? "" (if marked then "0X" else "")
      ((digitsOf 16 precision? n).map Char.toUpper)
  | _ => paddedNumber flags width precision? "" "" (digitsOf 10 precision? n)

/-- The number at the start of a text with blanks and a sign before it, and what follows it; nothing
if there is no number. -/
def leadingNumber? (s : String) : Option (Int × List Char) :=
  let cs := s.toList.dropWhile Arithmetic.isSpace
  let (negative, body) := match cs with
    | '-' :: ds => (true, ds)
    | '+' :: ds => (false, ds)
    | ds => (false, ds)
  if (body.head?.map Char.isDigit).getD false then
    let (n, rest) := Arithmetic.number body
    some (if negative then -Int.ofNat n else Int.ofNat n, rest)
  else none

/-- A real number as a conversion writes it. -/
def realNumber (f : Text.Precision) (flags : List Char) (width : Int) (precision? : Option Nat)
    (letter : Char) (x : Text.Real) : String :=
  let places := precision?.getD 6
  let marked := '#' ∈ flags
  let body := fun (r : Text.Ratio) =>
    if letter.toLower = 'f' then Text.fixedText places marked r
    else if letter.toLower = 'e' then Text.scientificText places marked r
    else if letter.toLower = 'a' then Text.hexadecimalText f precision? marked r
    else Text.generalText places marked r
  let (negative, digits, plain) := match x with
    | .finite negative r => (negative, body r, false)
    | .infinite negative => (negative, "inf", true)
    | .undefined negative => (negative, "nan", true)
  let digits := if letter.isUpper then digits.map Char.toUpper else digits
  let sign := if negative then "-" else if '+' ∈ flags then "+" else if ' ' ∈ flags then " " else ""
  let (mark, digits) := if letter.toLower = 'a' && !plain then
      (String.ofList (digits.toList.take 2), String.ofList (digits.toList.drop 2))
    else ("", digits)
  paddedNumber (if plain then flags.filter (· ≠ '0') else flags) width none sign mark digits

/-- What a run of `printf` has written and complained about, with how much of the output was written
before a complaint, the arguments that are left, whether
it has used one, and whether it has to end. -/
structure State where
  output : String
  remarks : List (Nat × Complaint)
  args : List String
  used : Bool
  ended : Bool
  fault? : Option FormatFault

/-- Takes the next argument. -/
def State.next (s : State) : Option String × State :=
  match s.args with
  | [] => (none, s)
  | a :: rest => (some a, { s with args := rest, used := true })

/-- Adds to the output. -/
def State.write (s : State) (text : String) : State := { s with output := s.output ++ text }

/-- Adds a complaint. -/
def State.complain (s : State) (c : Complaint) : State :=
  { s with remarks := s.remarks ++ [(s.output.length, c)] }

/-- All complaints. -/
def State.complaints (s : State) : List Complaint := s.remarks.map Prod.snd

/-- Complains about an argument that is not a whole number. -/
def State.check (s : State) (arg : String) (rest : List Char) (inRange : Bool) : State :=
  if !rest.isEmpty then s.complain (.partly arg)
  else if !inRange then s.complain (.outOfRange arg)
  else s

/-- A number cut off to a range. -/
def clamped (low high n : Int) : Int := if n < low then low else if high < n then high else n

/-- The code of the character after a quote. -/
def State.code (style : Style) (s : State) (cs : List Char) : Int × State :=
  let (n, rest) := style.firstCode cs
  let s := if style.stops && !rest.isEmpty then
      s.complain (.afterQuote (String.ofList rest))
    else s
  (Int.ofNat n, s)

/-- The next argument as a number between two bounds. A quote before a character stands for its
code. -/
def State.nextNumber (style : Style) (s : State) (low high : Int) : Int × State :=
  match s.next with
  | (none, s) => (0, s)
  | (some arg, s) =>
    let number : Int × State :=
      match leadingNumber? arg with
      | none => (0, s.complain (.notNumber arg))
      | some (n, rest) => (clamped low high n, s.check arg rest (low ≤ n && n ≤ high))
    match arg.toList with
    | [] => (0, s)
    | c :: cs =>
      let isQuote := c = '"' || c = '\''
      if isQuote && !(style.stops && cs.isEmpty) then s.code style cs else number

/-- The next argument as a signed word. -/
def State.nextSigned (style : Style) (s : State) : Int × State :=
  s.nextNumber style (-9223372036854775808) 9223372036854775807

/-- The next argument as a real number. -/
def State.nextReal (style : Style) (s : State) : Text.Real × State :=
  let ofNat (n : Nat) : Text.Real := .finite false ⟨n, 1⟩
  match s.next with
  | (none, s) => (ofNat 0, s)
  | (some arg, s) =>
    match arg.toList with
    | '"' :: cs => (ofNat (style.firstCode cs).1, s)
    | '\'' :: cs => (ofNat (style.firstCode cs).1, s)
    | [] => (ofNat 0, s)
    | cs =>
      match Text.leadingReal? style.precision (cs.dropWhile Arithmetic.isSpace) with
      | none => (ofNat 0, s.complain (.notNumber arg))
      | some (x, rest, inRange) => (x, s.check arg rest inRange)

/-- A width or a precision, which may be the next argument. -/
def State.nextAmount (style : Style) (s : State) : Option Nat → Int × State
  | some n => (Int.ofNat n, s)
  | none => s.nextSigned style

/-- Writes a conversion. -/
def State.convert (style : Style) (s : State) (written : String) (flags : List Char) (width : Int)
    (precision? : Option Nat) (letter : Char) : State :=
  if letter = 's' then
    let (arg?, s) := s.next
    let text := arg?.getD ""
    let text := match precision? with
      | some n => String.ofList (text.toList.take n)
      | none => text
    s.write (padded flags width text)
  else if letter = 'c' then
    let (arg?, s) := s.next
    let text := match (arg?.getD "").toList with
      | [] => "\x00"
      | c :: _ => c.toString
    s.write (padded flags width text)
  else if letter = 'b' then
    let (arg?, s) := s.next
    let (text, ended) := unescapedText style (arg?.getD "")
    let text := match precision? with
      | some n => String.ofList (text.toList.take n)
      | none => text
    { s.write (padded flags width text) with ended := ended }
  else if letter = 'd' || letter = 'i' then
    let (n, s) := s.nextSigned style
    s.write (signedNumber flags width precision? n)
  else if letter ∈ ['o', 'u', 'x', 'X'] then
    let (n, s) := s.nextNumber style (-18446744073709551615) 18446744073709551615
    s.write (unsignedNumber flags width precision? letter (n % 18446744073709551616).toNat)
  else if letter ∈ ['a', 'A', 'e', 'E', 'f', 'F', 'g', 'G'] then
    let (x, s) := s.nextReal style
    s.write (realNumber style.precision flags width precision? letter x)
  else if letter = 'q' && style.rich then
    let (arg?, s) := s.next
    s.write (padded flags width (style.quoting (arg?.getD "")))
  else if letter = 'Q' && style.rich && !style.stops then
    let (arg?, s) := s.next
    let text := (arg?.getD "").toList
    let cut := String.ofList (text.take (precision?.getD text.length))
    s.write (padded flags width (style.quoting cut))
  else { s with fault? := some (.invalid written letter), ended := true }

/-- Writes a part of a format. -/
def State.step (style : Style) (s : State) (d : Directive) : State :=
  if s.ended then s
  else
    match d with
    | .text t => s.write t
    | .stop => { s with ended := true }
    | .unfinished written => { s with fault? := some (.unfinished written), ended := true }
    | .convert written flags width? precision? letter =>
      let (width, s) := match width? with
        | some w => s.nextAmount style w
        | none => (0, s)
      let (precision?, s) := match precision? with
        | some w =>
          let (n, s) := s.nextAmount style w
          (if n < 0 then none else some n.toNat, s)
        | none => (none, s)
      s.convert style written flags width precision? letter

/-- Uses a format as long as it uses arguments and some are left. -/
def repeated (style : Style) (ds : List Directive) : Nat → State → State
  | 0, s => s
  | fuel + 1, s =>
    let s := ds.foldl (State.step style) { s with used := false }
    if s.ended || s.args.isEmpty || !s.used then s else repeated style ds fuel s

/-- What `printf` does with a format and its arguments. -/
def printed (style : Style) (format : String) (args : List String) : State :=
  repeated style (directives style (format.length + 1) format.toList) (args.length + 1)
    ⟨"", [], args, false, false, none⟩

end Format

end Looplet.Shell
