import Looplet.Shell.Pattern
import Looplet.Shell.Process

/-!
# Patterns of paths

A field that is a pattern stands for the paths that it matches, in the order of their bytes. Every
part of a pattern between slashes is matched against the names in a directory; a name that starts
with a dot must be asked for.
-/

namespace Looplet.Shell

/-- Whether a setting that has a name only is on. -/
def Process.hasToggle (p : Process) (name : String) : Bool := p.extras.toggles.contains name

/-- Which patterns a process knows. -/
def Process.dialect (p : Process) : Dialect :=
  if p.extended then ⟨true, p.hasToggle "extglob"⟩ else .standard

/-- Whether a process looks at whole characters. -/
def Process.isWide (p : Process) : Bool := p.extended && p.isUtf8

/-- The characters of a text as a process looks at them. -/
def Process.chars (p : Process) (s : String) : List Char := Text.wide p.isWide s

/-- The text of characters as a process looks at them. -/
def Process.textOfChars (p : Process) (cs : List Char) : String := Text.narrow p.isWide cs

/-- The pattern of characters in a dialect. -/
def Process.patternIn (p : Process) (d : Dialect) (cs : List Marked) : List Atom :=
  Pattern.ofMarked d (Pattern.wideMarked p.isWide cs)

/-- The pattern of characters. -/
def Process.patternOf (p : Process) (cs : List Marked) : List Atom := p.patternIn p.dialect cs

/-- The parts of a pattern between slashes. -/
def patternParts : List Marked → List (List Marked)
  | [] => [[]]
  | (c, q) :: rest =>
    match patternParts rest with
    | [] => [[(c, q)]]
    | part :: parts => if c = '/' then [] :: part :: parts else ((c, q) :: part) :: parts

/-- Inserts a text in a sorted list. -/
def insertSorted (s : String) : List String → List String
  | [] => [s]
  | t :: ts => if t.toList < s.toList then t :: insertSorted s ts else s :: t :: ts

/-- The texts in the order of their bytes. -/
def sorted (ss : List String) : List String := ss.foldr insertSorted []

/-- The names in the directory at a path. -/
def namesAt (fs : FileSystem) (path : String) : List String :=
  match fs.find? (if path = "" then "." else pathOf path) with
  | some (p, e) =>
    if e.isDirectory && e.allows .read then
      "." :: ".." :: (fs.names p).map Text.encoded
    else []
  | none => []

/-- Whether a path leads to a directory. -/
def isDirectoryAt (fs : FileSystem) (path : String) : Bool :=
  ((fs.find? (pathOf path)).map fun e => e.2.isDirectory).getD false

/-- Whether a part of a pattern asks for names that start with a dot. -/
def asksForDot : List Atom → Bool
  | .char '.' :: _ => true
  | _ => false

namespace Process

/-- The names in the directory at a path that a part of a pattern stands for. -/
def namesFor (p : Process) (base : String) (part : List Marked) : List String :=
  let lowered (cs : List Char) : List Char :=
    if p.hasToggle "nocaseglob" then cs.map Char.toLower else cs
  let pattern := p.patternOf ((lowered (part.map Prod.fst)).zip (part.map Prod.snd))
  (namesAt p.world.files base).filter fun n =>
    let hidden := n.toList.head? = some '.'
    let dots := n = "." || n = ".."
    (!hidden || asksForDot pattern || (p.hasToggle "dotglob" && !dots))
      && !(p.extended && dots) && Pattern.matchesAll pattern (lowered (p.chars n))

/-- Whether a part of a pattern stands for directories at any depth. -/
def isDeep (p : Process) (part : List Marked) : Bool :=
  p.hasToggle "globstar" && part = [('*', false), ('*', false)]

/-- The paths that continue a path by the parts of a pattern. -/
def pathsFrom (p : Process) : Nat → String → List (List Marked) → List String
  | 0, _, _ => []
  | _ + 1, base, [] => [base]
  | fuel + 1, base, part :: rest =>
    let fs := p.world.files
    let slash := if rest.isEmpty then "" else "/"
    if p.isDeep part then
      let names := p.namesFor base [('*', false)]
      let below := names.flatMap fun n =>
        let path := base ++ n
        let isDirectory := isDirectoryAt fs path
        (if rest.isEmpty then [path] else [])
          ++ if isDirectory then (p.pathsFrom fuel (path ++ "/") (part :: rest)).filter fun q =>
              q ≠ path ++ "/" || !rest.isEmpty
            else []
      let here := if rest.isEmpty then (if base = "" then [] else [base])
        else if rest = [[]] then (if base = "" then [] else [base])
        else p.pathsFrom fuel base rest
      here ++ below
    else if Pattern.isWild p.dialect part then
      (p.namesFor base part).flatMap fun n =>
        let path := base ++ n
        let rest := if p.extended && 1 < rest.length then
            match rest.dropWhile List.isEmpty with
            | [] => [[]]
            | more => more
          else rest
        if rest.isEmpty then [path]
        else if isDirectoryAt fs path then p.pathsFrom fuel (path ++ slash) rest
        else []
    else
      let path := base ++ String.ofList (part.map Prod.fst)
      if rest.isEmpty then if path = "" || (fs.find? (pathOf path)).isSome then [path] else []
      else p.pathsFrom fuel (path ++ slash) rest

/-- How deep directories may lie below a pattern. -/
def directoryDepth : Nat := 64

/-- What a field stands for: itself, or the paths that it matches if it is a pattern. Gives nothing
if it is a pattern that matches no path. -/
def pathsOf? (p : Process) (field : List Marked) : Option (List String) :=
  if 'f' ∈ p.options || !Pattern.isWild p.dialect field then
    some [String.ofList (field.map Prod.fst)]
  else
    let parts := patternParts field
    match sorted (p.pathsFrom (parts.length + directoryDepth) "" parts) with
    | [] => none
    | paths => some paths

end Process

end Looplet.Shell
