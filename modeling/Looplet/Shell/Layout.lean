import Looplet.Shell.Quoting
import Looplet.Shell.Syntax

/-!
# Commands as text

A command can be shown as text. Inside a function every command has a line of its own, and the parts
of a command are moved in; elsewhere commands stand behind each other. Words are shown as they were
written. The lines of a here-document come after the line of the command that reads them, so they
wait until the commands that are joined to that one are written (`Page.documents`).
-/

namespace Looplet.Shell

/-! ## Redirections and conditions -/

/-- The sign of a redirection to or from a file. -/
def OpenMode.sign : OpenMode → String
  | input => "<"
  | output => ">"
  | clobber => ">|"
  | append => ">>"
  | both => "<>"

/-- The descriptor that is not written before the sign of a redirection. -/
def OpenMode.silent : OpenMode → Nat
  | input => 0
  | _ => 1

/-- Whether a text stands for a descriptor, which may be moved. -/
def isDescriptorText (s : String) : Bool :=
  let digits := if s.endsWith "-" then s.toList.dropLast else s.toList
  !digits.isEmpty && digits.all Char.isDigit

/-- A redirection as it is shown, without the lines of a here-document. A name may be written in
place of its descriptor. -/
def Redirect.heading (name? : Option String) : Redirect → String
  | file fd mode _ written =>
    name?.getD (if fd = mode.silent then "" else Nat.repr fd) ++ mode.sign ++ " " ++ written
  | duplicate fd _ reads _ written =>
    let silent := fd = (if reads then 0 else 1) && !isDescriptorText written
    let number := name?.getD (if silent && written ≠ "-" then "" else Nat.repr fd)
    number ++ (if reads && written ≠ "-" then "<&" else ">&") ++ written
  | document fd _ source =>
    name?.getD (if fd = 0 then "" else Nat.repr fd) ++
      match source with
      | .word written => "<<< " ++ written
      | .lines mark quoted strip _ =>
        "<<" ++ (if strip then "-" else "") ++ (if quoted then Quoting.single mark else mark)
  | bothOutputs append _ written => (if append then "&>> " else "&> ") ++ written
  | named name r => r.heading (some ("\x7b" ++ name ++ "\x7d"))

/-- The lines of a here-document, with its mark. -/
def Redirect.document? : Redirect → Option String
  | document _ _ (.lines mark _ _ lines) => some (lines ++ mark)
  | named _ r => r.document?
  | _ => none

/-- A condition on words as it is shown. -/
def Test.shown : Test → String
  | nonempty _ written => "-n " ++ written
  | unary op _ written => op ++ " " ++ written
  | binary op _ _ (first, second) => first ++ " " ++ op ++ " " ++ second
  | group t => "( " ++ t.shown ++ " )"
  | negation (negation t) => t.shown
  | negation t => "! " ++ t.shown
  | both first second => first.shown ++ " && " ++ second.shown
  | either first second => first.shown ++ " || " ++ second.shown

/-! ## Pages -/

/-- What has been written, and what decides how to go on. -/
structure Page where
  text : String
  /-- How far lines are moved in. -/
  margin : Nat
  /-- How much further the parts of a command are moved in. -/
  step : Nat
  /-- How many of the next commands do not start a line. -/
  inline : Nat
  inFunction : Bool
  /-- Whether commands are written whose output is used in a word. -/
  inWord : Bool
  /-- The here-documents that are still to be written. -/
  documents : List String
  /-- Whether a here-document was written last. -/
  afterDocument : Bool
  /-- How many commands with joined parts are open. -/
  joins : Nat

/-- Writes something on a page. -/
abbrev Layout := StateM Page

namespace Layout

/-- Writes a text. -/
def write (s : String) : Layout Unit := modify fun page => { page with text := page.text ++ s }

/-- Moves a line in. -/
def moveIn : Layout Unit := do
  write (String.ofList (List.replicate (← get).margin ' '))

/-- Starts a line with a text. -/
def newLine (s : String) : Layout Unit := do
  write "\n"
  moveIn
  write s

/-- Lets the next command stand on the line at hand. -/
def stay : Layout Unit := modify fun page => { page with inline := page.inline + 1 }

/-- Starts a command. -/
def start : Layout Unit := do
  let page ← get
  if page.inline = 0 then moveIn else set { page with inline := page.inline - 1 }

/-- Ends a command before a word, unless a sign or a line does that already. -/
def semicolon : Layout Unit := do
  match (← get).text.toList.getLast? with
  | some '&' => return ()
  | some '\n' => return ()
  | _ => write ";"

/-- Writes a part of a command further in. -/
def further (body : Layout Unit) : Layout Unit := do
  modify fun page => { page with margin := page.margin + page.step }
  body
  modify fun page => { page with margin := page.margin - page.step }

/-- Writes here-documents. -/
def writeDocuments (documents : List String) : Layout Unit := do
  write ("\n" ++ String.join (documents.map (· ++ "\n")))
  modify fun page => { page with afterDocument := true }

/-- Writes a sign between commands and then the here-documents that wait. -/
def flushAfter (sign : String) : Layout Unit := do
  let shown := sign ≠ "" && sign ≠ ";"
  if shown then write sign
  let documents := (← get).documents
  if !documents.isEmpty then
    writeDocuments documents
    if shown then write " "
    modify fun page => { page with documents := [] }

/-- Writes the here-documents that wait. -/
def flush : Layout Unit := flushAfter ""

/-- Writes redirections. -/
def redirects (rs : List Redirect) : Layout Unit := do
  modify fun page => { page with afterDocument := false }
  write (" ".intercalate (rs.map (·.heading none)))
  let documents := rs.filterMap Redirect.document?
  if !documents.isEmpty then
    if (← get).joins = 0 then writeDocuments documents
    else modify fun page => { page with documents := documents }

/-- Writes the redirections after a command. -/
def redirectsAfter (rs : List Redirect) : Layout Unit := do
  if !rs.isEmpty then
    write " "
    redirects rs

/-- Writes what divides two commands of a list. In a word, lines stay lines. -/
def divide (byLine : Bool) : Layout Unit := do
  let page ← get
  let byLine := page.inWord && byLine
  if !page.documents.isEmpty then flushAfter (if page.inFunction then "" else ";")
  else if page.afterDocument then modify fun page => { page with afterDocument := false }
  else if !byLine then write ";"
  if page.inFunction || byLine then write "\n"
  else
    write " "
    stay

end Layout

open Layout

/-! ## Commands -/

/-- Whether a list of commands ends with one in the background. -/
def endsBehind : Command → Bool
  | .background _ => true
  | .sequence _ second _ => endsBehind second
  | _ => false

/-- Writes what stands before a command with joined parts, and the command. -/
def Layout.joining (body : Layout Unit) : Layout Unit := do
  modify fun page => { page with joins := page.joins + 1 }
  stay
  body
  modify fun page => { page with joins := page.joins - 1 }

/-- Writes the end of the definition of a function. -/
def Layout.closeFunction (rs : List Redirect) : Layout Unit := do
  if rs.isEmpty then newLine "\x7d"
  else
    newLine "\x7d "
    redirects rs

/-- Writes the body of a loop over values. -/
def Layout.loopBody (body : Layout Unit) : Layout Unit := do
  newLine "do\n"
  further do
    body
    flush
    semicolon
  newLine "done"

mutual

/-- Writes a command. -/
def layout : Command → Layout Unit
  | .nothing => return ()
  | .simple _ _ _ rs written => do
    start
    write (" ".intercalate written)
    if !rs.isEmpty then
      if !written.isEmpty then write " "
      redirects rs
  | .pipeline parts => do
    start
    joining (layoutParts parts)
  | .negation (.timed briefly c) => do
    start
    write (if briefly then "time -p ! " else "time ! ")
    stay
    layout c
  | .negation c => do
    start
    write "! "
    stay
    layout c
  | .timed briefly c => do
    start
    write (if briefly then "time -p " else "time ")
    stay
    layout c
  | .both first second => do
    start
    joining do
      layout first
      flushAfter " && "
      stay
      layout second
      flush
  | .either first second => do
    start
    joining do
      layout first
      flushAfter " || "
      stay
      layout second
      flush
  | .sequence first second byLine => do
    start
    joining do
      layout first
      if endsBehind first then
        write " "
        stay
      else divide byLine
      layout second
      flush
  | .background c => do
    start
    joining do
      layout c
      flushAfter " &"
  | .group body => do
    start
    write "\x7b "
    if (← get).inFunction then
      write "\n"
      further do
        layout body
        flush
      newLine "\x7d"
    else
      stay
      layout body
      flush
      semicolon
      write " \x7d"
  | .subshell _ body rs => do
    start
    write "( "
    stay
    layout body
    flush
    write " )"
    redirectsAfter rs
  | .redirected _ body rs => do
    layout body
    redirectsAfter rs
  | .conditional test yes no => do
    start
    write "if "
    stay
    layout test
    semicolon
    write " then\n"
    further do
      layout yes
      flush
    match no with
    | .nothing => pure ()
    | no =>
      semicolon
      newLine "else\n"
      further do
        layout no
        flush
    semicolon
    newLine "fi"
  | .loop untilTrue test body => do
    start
    write (if untilTrue then "until " else "while ")
    stay
    layout test
    flush
    semicolon
    write " do\n"
    further do
      layout body
      flush
    semicolon
    newLine "done"
  | .each _ name _ body written => do
    start
    write ("for " ++ name ++ " in " ++ " ".intercalate written ++ ";")
    loopBody (layout body)
  | .count _ _ _ _ body written => do
    start
    write ("for ((" ++ "; ".intercalate written ++ "))")
    loopBody (layout body)
  | .select _ name _ body written => do
    start
    write ("select " ++ name ++ " in " ++ " ".intercalate written ++ ";")
    loopBody (layout body)
  | .choice _ _ cases written => do
    start
    write ("case " ++ written ++ " in ")
    further (layoutCases cases)
    newLine "esac"
  | .test _ t => do
    start
    write ("[[ " ++ t.shown ++ " ]]")
  | .arithmetic _ _ written => do
    start
    write ("((" ++ written ++ "))")
  | .kept text => write text
  | .function _ name body => do
    start
    write ("function " ++ name ++ " () \n")
    moveIn
    write "\x7b \n"
    let before := (← get).inFunction
    modify fun page => { page with inFunction := true }
    let rs ← match body with
      | .group c => do
        further (layout c)
        pure []
      | .redirected _ (.group c) rs => do
        further (layout c)
        pure rs
      | c => do
        further (layout c)
        pure []
    flush
    modify fun page => { page with inFunction := before }
    closeFunction rs

/-- Writes commands that are joined by pipes. -/
def layoutParts : List Command → Layout Unit
  | [] => return ()
  | [c] => do
    layout c
    flush
  | c :: rest => do
    layout c
    flushAfter " |"
    write " "
    stay
    layoutParts rest

/-- Writes the cases of a choice. -/
def layoutCases : List Case → Layout Unit
  | [] => return ()
  | .clause _ written body after :: rest => do
    newLine (" | ".intercalate written ++ ")\n")
    further (layout body)
    flush
    newLine (match after with
      | .stop => ";;"
      | .fallThrough => ";&"
      | .lookOn => ";;&")
    layoutCases rest

end

/-! ## Texts -/

/-- A page on which nothing has been written. -/
def Page.blank (margin step : Nat) (inFunction inWord : Bool) : Page :=
  ⟨"", margin, step, 0, inFunction, inWord, [], false, 0⟩

/-- What a computation writes on a page. -/
def Page.written (page : Page) (body : Layout Unit) : String := (body.run page).2.text

/-- The commands of a function, and the redirections after them. -/
def functionParts : Command → Command × List Redirect
  | .group c => (c, [])
  | .redirected _ (.group c) rs => (c, rs)
  | c => (c, [])

/-- The definition of a function on several lines. A name that has a meaning of its own needs a word
before it. -/
def definitionText (name : String) (body : Command) : String :=
  let (c, rs) := functionParts body
  let word := if name ∈ reservedWords || name ∈ extraReservedWords then "function " else ""
  (Page.blank 0 4 true false).written do
    write (word ++ name ++ " () \n\x7b \n")
    further (layout c)
    flush
    closeFunction rs

/-- The definition of a function as other programs see it. -/
def exportedText (body : Command) : String :=
  let (c, rs) := functionParts body
  (Page.blank 1 0 true false).written do
    write "() \x7b "
    layout c
    flush
    modify fun page => { page with margin := 0 }
    closeFunction rs

/-- Commands whose output is used in a word, up to the parenthesis after them. -/
def substitutedText (c : Command) : String :=
  let text := (Page.blank 0 4 false true).written (layout c)
  (if text.startsWith "(" then " " else "") ++ text ++ ")"

end Looplet.Shell
