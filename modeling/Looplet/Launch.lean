import Looplet.FileSystem.Standard
import Looplet.Text.Bytes

/-!
# Starting programs

A path can be started if it leads to a plain file that may be executed. An image is run as it is.
A script names another program in its first line, which is started with the path of the script
among its arguments. All texts are texts of bytes.
-/

namespace Looplet

/-- A program that is started, with its arguments, the first of which is its own name. -/
structure Launch where
  program : String
  args : List String
  deriving DecidableEq

namespace Launch

/-- How much of a file is looked at to find out how it is run. -/
def headSize : Nat := 256

/-- The first bytes of a file, with zeros if it is shorter. -/
def head (bytes : ByteArray) : List Char :=
  let cs := (Text.ofBytes (bytes.extract 0 headSize)).toList
  cs ++ List.replicate (headSize - cs.length) '\x00'

/-- Whether a character divides the words of a first line. -/
def isGap (c : Char) : Bool := c = ' ' || c = '\t'

/-- Whether a character ends the name of an interpreter. -/
def endsName (c : Char) : Bool := isGap c || c = '\x00'

/-- The part of a first line that counts, after its mark: up to the line feed, or all there is if
that surely holds the whole name. -/
def mainPart? (cs : List Char) : Option (List Char) :=
  let line := cs.takeWhile fun c => c ≠ '\n' && c ≠ '\x00'
  if (cs.drop line.length).head? = some '\n' then some line
  else if (cs.dropWhile isGap).any endsName then some cs.dropLast
  else none

/-- The interpreter that the first line of a script names, and the argument after it. Blanks
around them do not count, and all after the name is one argument. -/
def interpreter? (bytes : ByteArray) : Option (String × Option String) :=
  match head bytes with
  | '#' :: '!' :: cs => do
    let part := ((← mainPart? cs).reverse.dropWhile isGap).reverse.dropWhile isGap
    if part.isEmpty then none
    else
      let name := part.takeWhile fun c => !endsName c
      let arg? := match part.drop name.length with
        | c :: rest =>
          if isGap c then some (String.ofList ((rest.dropWhile isGap).takeWhile (· ≠ '\x00')))
          else none
        | [] => none
      return (String.ofList name, arg?)
  | _ => none

/-- The bytes of a file that may be started. -/
def fileAt (fs : FileSystem) (path : String) : Except SystemError ByteArray :=
  match fs.find (Text.decoded (Text.toBytes path)) with
  | .error e => .error e
  | .ok (_, e) => if e.isFile && e.allows .execute then .ok e.bytes else .error .permissionDenied

/-- What is started at a path, where a script may name another up to some depth. -/
def resolve (fs : FileSystem) : Nat → String → List String → Except SystemError Launch
  | 0, path, _ =>
    match fileAt fs path with
    | .error e => .error e
    | .ok _ => .error .tooManyLinks
  | depth + 1, path, args =>
    match fileAt fs path with
    | .error e => .error e
    | .ok bytes =>
      match FileSystem.programOf? bytes, interpreter? bytes with
      | some name, _ => .ok ⟨name, args⟩
      | none, some (name, arg?) =>
        resolve fs depth name (name :: arg?.toList ++ path :: args.drop 1)
      | none, none => .error .badFormat

/-- How often a script may name another one. -/
def scriptDepth : Nat := 6

/-- How long an argument can be. -/
def argumentSize : Nat := 131071

/-- What is started at a path. -/
def ofPath (fs : FileSystem) (path : String) (args : List String) : Except SystemError Launch :=
  match fileAt fs path with
  | .error e => .error e
  | .ok _ =>
    if args.any fun a => argumentSize < a.length then .error .argumentsTooLong
    else resolve fs scriptDepth path args

/-- The paths of a name in the directories of a search path. An empty directory is the one at
hand. -/
def candidates (searchPath name : String) : List String :=
  (searchPath.splitOn ":").map fun dir =>
    if dir = "" then name else if dir.endsWith "/" then dir ++ name else dir ++ "/" ++ name

/-- Tries paths from left to right. A path that is missing is passed over, and one that is not
allowed is remembered. -/
def firstOf (fs : FileSystem) (args : List String) (failure : SystemError) :
    List String → Except SystemError Launch
  | [] => .error failure
  | path :: rest =>
    match ofPath fs path args with
    | .ok l => .ok l
    | .error .noEntry => firstOf fs args failure rest
    | .error .notDirectory => firstOf fs args failure rest
    | .error .permissionDenied => firstOf fs args .permissionDenied rest
    | .error e => .error e

/-- What is started by a name: a path if it has a slash, else a file on the search path. -/
def ofName (fs : FileSystem) (searchPath name : String) (args : List String) :
    Except SystemError Launch :=
  if name = "" then .error .noEntry
  else if name.toList.contains '/' then ofPath fs name args
  else if 255 < name.length then .error .nameTooLong
  else firstOf fs args .noEntry (candidates searchPath name)

end Launch

end Looplet
