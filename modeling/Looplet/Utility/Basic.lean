import Looplet.Shell.Builtins

/-!
# Small programs

A program of the system gets its arguments, its own name first, and gives its status. Options may
stand anywhere before `--`. Messages name the program and put quotes around what they speak of:
the quotes of the language at hand (`quote`), or those that a shell would read back (`quoted`).
-/

namespace Looplet.Utility

open Shell

/-- A program: from its arguments after its name to its status. -/
abbrev Body := (name : String) → List String → Run Nat

/-- Writes a message of a program. -/
def complainAs (name message : String) : Run Unit := sayError (name ++ ": " ++ message ++ "\n")

/-- Points to the help of a program. -/
def pointToHelp (name : String) : Run Unit :=
  sayError ("Try '" ++ name ++ " --help' for more information.\n")

/-- Writes a message about how a program was called, and gives its status. -/
def misusedWith (status : Nat) (name message : String) : Run Nat := do
  complainAs name message
  pointToHelp name
  return status

/-- Writes a message about how a program was called. -/
def misused (name message : String) : Run Nat := misusedWith 1 name message

/-- Writes a message and gives the status of a failure. -/
def refused (name message : String) : Run Nat := do
  complainAs name message
  return 1

/-! ## Quotes -/

/-- A control character as an escape. -/
def escapedControl (c : Char) : String :=
  match [('\x07', 'a'), ('\x08', 'b'), ('\t', 't'), ('\n', 'n'), ('\x0b', 'v'), ('\x0c', 'f'),
      ('\r', 'r')].lookup c with
  | some letter => "\\" ++ letter.toString
  | none => "\\" ++ octalDigits 3 c.toNat

/-- Whether a character of a text of bytes cannot be shown. -/
def isControl (utf8 : Bool) (c : Char) : Bool :=
  c < ' ' || c = '\x7f' || (!utf8 && 127 < c.toNat)

/-- A text between the quotes of the language at hand. -/
def quote (s : String) : Run String := do
  let utf8 := (← get).isUtf8
  let body := s.toList.map fun c =>
    if isControl utf8 c then escapedControl c
    else if c = '\\' then "\\\\"
    else if c = '\'' && !utf8 then "\\'"
    else c.toString
  let text := String.join body
  return if utf8 then Text.encoded "‘" ++ text ++ Text.encoded "’" else "'" ++ text ++ "'"

/-- Runs of characters that can be shown or not, between quotes of their own. -/
def quotedRuns : Nat → List Char → String
  | 0, _ => ""
  | _ + 1, [] => ""
  | fuel + 1, c :: cs =>
    if isControl true c then
      let run := (c :: cs).takeWhile (isControl true)
      "$'" ++ String.join (run.map escapedControl) ++ "'"
        ++ quotedRuns fuel ((c :: cs).drop run.length)
    else
      let run := (c :: cs).takeWhile fun d => !isControl true d
      "'" ++ String.join (run.map fun d => if d = '\'' then "'\\''" else d.toString) ++ "'"
        ++ quotedRuns fuel ((c :: cs).drop run.length)

/-- A text between quotes, as a shell would read it back. -/
def quoted (s : String) : String :=
  let cs := s.toList
  if cs.any (isControl true) then
    (if (cs.head?.map (isControl true)).getD false then "''" else "")
      ++ quotedRuns (cs.length + 1) cs
  else if cs.contains '\'' && !cs.any (fun c => c ∈ ['"', '$', '\x60', '\\']) then
    "\"" ++ s ++ "\""
  else
    "'" ++ String.join (cs.map fun c => if c = '\'' then "'\\''" else c.toString) ++ "'"

/-- Whether a character needs no quotes. -/
def isPlain (c : Char) : Bool :=
  c.isAlphanum || c ∈ ['_', '-', '.', '/', '+', ',', '%', '@', ']', '\x7b', '\x7d', ':']
    || 127 < c.toNat

/-- A text between quotes if it needs them. -/
def quotedIfNeeded (s : String) : String :=
  if s ≠ "" && s.toList.all isPlain then s else quoted s

/-! ## Options -/

/-- The options that a program knows: letters, with a colon after those that take a value and two
after those that may, and long names of letters. A plus sign before the letters says that options
stand only in front. -/
structure Known where
  letters : List Char
  names : List (String × Char)

/-- Whether options stand only in front of the other arguments. -/
def Known.inFront (k : Known) : Bool := k.letters.head? = some '+'

/-- Whether an option takes a value. -/
inductive Taking where
  | nothing
  | value
  | perhaps
  deriving DecidableEq

/-- What a letter takes, if it is known. -/
def Known.takes? (k : Known) (c : Char) : Option Taking :=
  if c = ':' || c = '+' then none
  else
    match k.letters.dropWhile (· ≠ c) with
    | [] => none
    | _ :: ':' :: ':' :: _ => some .perhaps
    | _ :: ':' :: _ => some .value
    | _ => some .nothing

/-- The options and the other arguments of a call. -/
structure Call where
  options : List (Char × String)
  operands : List String

/-- Whether an option is given. -/
def Call.has (c : Call) (letter : Char) : Bool := c.options.any fun o => o.1 = letter

/-- The value of an option, the last one if there are several. -/
def Call.value? (c : Call) (letter : Char) : Option String := c.options.reverse.lookup letter

/-- All values of an option. -/
def Call.values (c : Call) (letter : Char) : List String :=
  c.options.filterMap fun o => if o.1 = letter then some o.2 else none

/-- The last option of some letters that is given. -/
def Call.lastOf (c : Call) (letters : List Char) : Option Char :=
  (c.options.reverse.find? fun o => o.1 ∈ letters).map Prod.fst

/-- Adds an option. -/
def Call.withOption (c : Call) (letter : Char) (value : String) : Call :=
  { c with options := (letter, value) :: c.options }

/-- Adds an argument that is no option. -/
def Call.withOperand (c : Call) (a : String) : Call := { c with operands := a :: c.operands }

/-- Reads the letters of one argument. Gives the options, and whether the last of them still needs
a value. -/
def readLetters (k : Known) : List Char → Except String (List (Char × String) × Option Char)
  | [] => .ok ([], none)
  | c :: cs =>
    match k.takes? c with
    | none => .error ("invalid option -- '" ++ c.toString ++ "'")
    | some .value => if cs.isEmpty then .ok ([], some c) else .ok ([(c, String.ofList cs)], none)
    | some .perhaps => .ok ([(c, String.ofList cs)], none)
    | some .nothing => do
      let (more, open_) ← readLetters k cs
      return ((c, "") :: more, open_)

/-- The name that a long option means, which may be cut short. -/
def Known.fullName (k : Known) (name : String) : Except String (String × Char) :=
  match k.names.find? fun n => n.1 = name with
  | some n => .ok n
  | none =>
    match k.names.filter fun n => name.toList.isPrefixOf n.1.toList with
    | [] => .error ("unrecognized option '--" ++ name ++ "'")
    | n :: more =>
      if more.all fun m => m.2 = n.2 then .ok n
      else
        let all := (n :: more).map fun m => " '--" ++ m.1 ++ "'"
        .error ("option '--" ++ name ++ "' is ambiguous; possibilities:" ++ String.join all)

/-- Reads a long option with the arguments after it. Gives the option, and the arguments that are
left. -/
def readName (k : Known) (s : String) (rest : List String) :
    Except String (Char × String × List String) := do
  let written := String.ofList (s.toList.takeWhile (· ≠ '='))
  let value? := match s.toList.dropWhile (· ≠ '=') with
    | [] => none
    | _ :: cs => some (String.ofList cs)
  let (name, c) ← k.fullName written
  match (k.takes? c).getD .nothing, value?, rest with
  | .nothing, some _, _ => .error ("option '--" ++ name ++ "' doesn't allow an argument")
  | .nothing, none, _ => return (c, "", rest)
  | .value, some v, _ => return (c, v, rest)
  | .value, none, v :: more => return (c, v, more)
  | .value, none, [] => .error ("option '--" ++ name ++ "' requires an argument")
  | .perhaps, v?, _ => return (c, v?.getD "", rest)

/-- Reads arguments from left to right. -/
def readCall (k : Known) : Nat → List String → Except String Call
  | 0, args => .ok ⟨[], args⟩
  | _ + 1, [] => .ok ⟨[], []⟩
  | fuel + 1, a :: rest =>
    match a.toList with
    | ['-', '-'] => .ok ⟨[], rest⟩
    | '-' :: '-' :: cs => do
      let (c, value, rest) ← readName k (String.ofList cs) rest
      return (← readCall k fuel rest).withOption c value
    | '-' :: c :: cs =>
      match readLetters k (c :: cs) with
      | .error message => .error message
      | .ok (found, none) => do
        let call ← readCall k fuel rest
        return { call with options := found ++ call.options }
      | .ok (found, some d) =>
        match rest with
        | [] => .error ("option requires an argument -- '" ++ d.toString ++ "'")
        | value :: more => do
          let call ← readCall k fuel more
          return { call with options := found ++ (d, value) :: call.options }
    | _ =>
      if k.inFront then .ok ⟨[], a :: rest⟩ else do return (← readCall k fuel rest).withOperand a

/-- A program that knows options and has a status of its own for those that it does not know. -/
def withOptionsOr (status : Nat) (letters : String) (names : List (String × Char))
    (body : String → Call → Run Nat) : Body := fun name args =>
  match readCall ⟨letters.toList, names⟩ (args.length + 1) args with
  | .error message => misusedWith status name message
  | .ok call => body name call

/-- A program that knows options. -/
def withOptions (letters : String) (names : List (String × Char))
    (body : String → Call → Run Nat) : Body := withOptionsOr 1 letters names body

/-! ## Files -/

/-- What is at a path. -/
def lookAt (path : String) : Run (Except SystemError (Place × Entry)) := do
  return (← get).world.files.find (pathOf path)

/-- What is at a path, which may be a link. -/
def lookAtLink (path : String) : Run (Except SystemError (Place × Entry)) := do
  return (← get).world.files.findLink (pathOf path)

/-- Changes the world. -/
def changeWorld (f : World → World) : Run Unit := modify fun p => { p with world := f p.world }

/-- The last part of a path. -/
def lastPart (path : String) : String :=
  match (FileSystem.parts path).getLast? with
  | some s => s
  | none => if path = "" then "" else "/"

/-- Joins a directory and a name. -/
def inside (dir name : String) : String :=
  if dir.endsWith "/" then dir ++ name else dir ++ "/" ++ name

/-- The text of an input: a file, or the standard input for a dash. -/
def inputText (path : String) : Run (Except SystemError String) := do
  if path = "-" then readAll 0
  else
    match ← openPath path .input with
    | .error e => return .error e
    | .ok f =>
      let p ← get
      let (index, w) := p.world.addOpen f
      match w.read index ByteArray.size with
      | .error e => return .error e
      | .ok (bytes, w) =>
        set { p with world := w }
        return .ok (Text.ofBytes bytes)

/-- The files that a program reads. -/
def Call.inputs (c : Call) : List String := if c.operands.isEmpty then ["-"] else c.operands

/-- Says that an input cannot be read. -/
def unreadable (name path : String) (e : SystemError) : Run Nat :=
  refused name (quotedIfNeeded path ++ ": " ++ e.reason)

/-- The worst of the statuses of a program on each of its arguments. -/
def worst (body : String → Run Nat) : List String → Run Nat
  | [] => return 0
  | a :: rest => do
    let here ← body a
    let there ← worst body rest
    return max here there

/-- Writes a text to a file, or adds it there. -/
def writeOutput (append : Bool) (path text : String) : Run (Except SystemError Unit) := do
  match ← openPath path (if append then .append else .clobber) with
  | .ok f =>
    let p ← get
    let (index, w) := p.world.addOpen f
    match w.write index (Text.toBytes text) with
    | .ok w =>
      set { p with world := w }
      return .ok ()
    | .error e => return .error e
  | .error e => return .error e

/-! ## Lines -/

/-- The lines of a text, each with its line feed if it has one. -/
def fullLines (cs : List Char) : List (List Char) :=
  let (lines, last) := cs.foldr (fun c (lines, line) =>
    if c = '\n' then (if line.isEmpty then lines else line :: lines, ['\n'])
    else (lines, c :: line)) ([], [])
  if last.isEmpty then lines else last :: lines

/-- The lines of a text without their line feeds. -/
def linesOf (text : String) : List String :=
  (fullLines text.toList).map fun l =>
    String.ofList (if l.getLast? = some '\n' then l.dropLast else l)

/-- A number in columns. -/
def inColumns (width n : Nat) : String :=
  let s := Nat.repr n
  String.ofList (List.replicate (width - s.length) ' ') ++ s

end Looplet.Utility
